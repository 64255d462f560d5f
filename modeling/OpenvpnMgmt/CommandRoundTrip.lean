import OpenvpnMgmt.EncodeSafety
import OpenvpnMgmt.Lib.Results

/-!
What `encode` writes for a command reads back as the command. Quoted fields may be any text;
unquoted ones must be words of the wire.
-/
namespace MgmtCommandRoundTrip
open TextOps Utf8Text Results MgmtEncoder MgmtValues MgmtCommand MgmtCodec MgmtWire
  MgmtEncodeSafety

/-! Tokens -/

theorem quotedToken_escape (s rest : Text) :
    quotedToken (escape s ++ '"' :: rest) = some (s, rest) := by
  induction s using escape.induct with
  | case1 => rfl
  | case2 s ih => simp [escape, quotedToken, ih]
  | case3 s ih => simp [escape, quotedToken, ih]
  | case4 c s backslash quote ih =>
    rw [escape, List.cons_append, quotedToken, ih]
    all_goals grind

theorem nextToken_quoted (s rest : Text) :
    nextToken (quote (escape s) ++ rest) = some (s, trimStart rest) := by
  have visible : isWhitespace '"' = false := by decide
  have shape : quote (escape s) ++ rest = '"' :: (escape s ++ '"' :: rest) := by simp [quote]
  rw [shape, nextToken, trimStart_cons visible]
  simp [quotedToken_escape]

/- A word that the lexer does not take for a quoted one. -/
def IsToken (t : Text) : Prop := IsWord t ∧ t.head? ≠ some '"'

instance (t : Text) : Decidable (IsToken t) := inferInstanceAs (Decidable (_ ∧ _))

theorem nextToken_spaced {t : Text} (token : IsToken t) (rest : Text) :
    nextToken (t ++ ' ' :: rest) = some (t, trimStart rest) := by
  obtain ⟨⟨nonempty, visible⟩, unquoted⟩ := token
  have cutting := splitOnce_append (b := rest) visible (show isWhitespace ' ' = true by decide)
  cases t with
  | nil => contradiction
  | cons c more =>
    have head : trimStart (c :: more ++ ' ' :: rest) = c :: (more ++ ' ' :: rest) :=
      trimStart_cons (visible c (by simp)) _
    have plain : c ≠ '"' := by simpa using unquoted
    rw [nextToken, head]
    split
    · contradiction
    · rename_i same
      cases same
      exact absurd rfl plain
    · rename_i same
      rw [← same, ← List.cons_append, cutting]

theorem nextToken_word {t rest : Text} (token : IsToken t) (solid : Solid rest) :
    nextToken (t ++ ' ' :: rest) = some (t, rest) := by
  rw [nextToken_spaced token, trimStart_of_head solid.2.1]

theorem nextToken_last {t : Text} (token : IsToken t) : nextToken t = some (t, []) := by
  obtain ⟨⟨nonempty, visible⟩, unquoted⟩ := token
  have whole : splitOnce isWhitespace t = none := splitOnce_eq_none.mpr visible
  cases t with
  | nil => contradiction
  | cons c more =>
    have head : trimStart (c :: more) = c :: more := trimStart_cons (visible c (by simp)) _
    have plain : c ≠ '"' := by simpa using unquoted
    rw [nextToken, head]
    split
    · contradiction
    · rename_i same
      cases same
      exact absurd rfl plain
    · rename_i same
      rw [← same, whole]

theorem quote_solid (s : Text) : Solid (quote s) := by
  refine ⟨by simp [quote], ?_, ?_⟩
  · intro c member
    have : c = '"' := by simpa [quote] using member.symm
    subst this
    decide
  · intro c member
    have : c = '"' := by
      rw [quote, List.getLast?_append_of_ne_nil _ (by simp)] at member
      simpa using member.symm
    subst this
    decide

theorem nextToken_quoted_spaced {rest : Text} (s : Text) (solid : Solid rest) :
    nextToken (quote (escape s) ++ ' ' :: rest) = some (s, rest) := by
  rw [nextToken_quoted, trimStart_space solid]

theorem nextToken_quoted_last (s : Text) : nextToken (quote (escape s)) = some (s, []) := by
  have whole := nextToken_quoted s []
  rwa [List.append_nil] at whole

theorem display_isToken {w : Nat} (n : BitVec w) : IsToken (display n) := by
  refine ⟨display_isWord n, fun first => ?_⟩
  exact not_mem_display n (by decide) (List.mem_of_mem_head? first)

/-! Lines -/

def fixedWords : List String :=
  ["kill", "remote", "proxy", "client-deny", "client-kill", "status", "state", "version", "pid",
    "help", "net", "load-stats", "forget-passwords", "pkcs11-id-count", "remote-entry-count",
    "exit", "quit", "verb", "mute", "log", "echo", "bytecount", "signal", "hold", "auth-retry",
    "needok", "needstr", "pkcs11-id-get", "client-auth-nt", "client-pending-auth", "cr-response",
    "env-filter", "remote-entry-get", "push-update-broad", "push-update-cid", "username",
    "password", "ACCEPT", "SKIP", "MOD", "NONE", "HTTP", "SOCKS", "nct", "on", "off", "release",
    "2", "3", "ok", "cancel", "all"]

theorem fixedWords_isToken : ∀ word ∈ fixedWords, IsToken (lit word) := by decide +kernel

theorem fixedWords_isWord : ∀ word ∈ fixedWords, IsWord (lit word) :=
  fun word known => (fixedWords_isToken word known).1

def Reads (cmd : OvpnCommand) (x : Encoded Wire) : Prop :=
  ∃ text, x = .ok (.line text) ∧ OvpnCommand.fromStr text = .ok cmd

theorem argument (word : String) (known : word ∈ fixedWords) : Solid (lit word) :=
  (fixedWords_isWord word known).solid

theorem fromStr_args {word args : Text} (keyword : IsWord word) (solid : Solid args) :
    OvpnCommand.fromStr (word ++ ' ' :: args) = parseCommand word args (word ++ ' ' :: args) := by
  have whole := trim_eq_self (keyword.solid.spaced solid).2
  have cutting := splitOnce_append (b := args) keyword.2 (show isWhitespace ' ' = true by decide)
  rw [OvpnCommand.fromStr, whole, cutting]
  simp only [trim_eq_self solid.2]

theorem fromStr_spaced {word : Text} (keyword : IsWord word) (args : Text) :
    ∃ line, OvpnCommand.fromStr (word ++ ' ' :: args) = parseCommand word (trim args) line := by
  have start : trimStart (word ++ ' ' :: args) = word ++ ' ' :: args := by
    refine trimStart_of_head fun c member => keyword.solid.2.1 c ?_
    rwa [List.head?_append_of_ne_nil _ keyword.1] at member
  rcases blank_or_visible args with all | ⟨blanks, c, more, rfl, -, visible⟩
  · have inner : trimStart args = [] := List.dropWhile_eq_nil_iff.mpr all
    have blank : trim args = [] := by rw [trim, inner]; rfl
    have whole : trim (word ++ ' ' :: args) = word := by
      rw [trim, start, trimEnd_blanks, trimEnd_of_last keyword.solid.2.2]
      exact List.forall_mem_cons.mpr ⟨by decide, all⟩
    refine ⟨word, ?_⟩
    rw [OvpnCommand.fromStr, whole, splitOnce_eq_none.mpr keyword.2, blank]
  · have whole : trim (word ++ ' ' :: (blanks ++ c :: more)) =
        word ++ ' ' :: trimEnd (blanks ++ c :: more) := by
      have shape : word ++ ' ' :: (blanks ++ c :: more) = (word ++ ' ' :: blanks) ++ c :: more := by
        simp
      rw [trim, start, shape, trimEnd_visible visible, trimEnd_visible visible]
      simp
    have cutting := splitOnce_append (b := trimEnd (blanks ++ c :: more)) keyword.2
      (show isWhitespace ' ' = true by decide)
    refine ⟨word ++ ' ' :: trimEnd (blanks ++ c :: more), ?_⟩
    rw [OvpnCommand.fromStr, whole, cutting]
    simp only [trim_trimEnd]

theorem fromStr_word {word : Text} (keyword : IsWord word) :
    OvpnCommand.fromStr word = parseCommand word [] word := by
  have whole := trim_eq_self keyword.solid.2
  rw [OvpnCommand.fromStr, whole, splitOnce_eq_none.mpr keyword.2]

theorem reads_args {x : Encoded Wire} {cmd : OvpnCommand} (word : String) (args : Text)
    (form : x = .ok (.line (lit word ++ ' ' :: args))) (known : word ∈ fixedWords)
    (solid : Solid args) (parsed : ∀ line, parseCommand (lit word) args line = .ok cmd) :
    Reads cmd x :=
  ⟨_, form, by rw [fromStr_args (fixedWords_isWord word known) solid, parsed]⟩

theorem reads_word {x : Encoded Wire} {cmd : OvpnCommand} (word : String)
    (form : x = .ok (.line (lit word))) (known : word ∈ fixedWords)
    (parsed : ∀ line, parseCommand (lit word) [] line = .ok cmd) : Reads cmd x :=
  ⟨_, form, by rw [fromStr_word (fixedWords_isWord word known), parsed]⟩

theorem quoted_of_clean {s : Text} (clean : WireClean s) (field : String) (mode : EncoderMode) :
    quoted s field mode = .ok (quote (escape s)) := by
  rw [quoted, wireSafe_of_clean clean]
  rfl

/-! Arguments -/

theorem display_solid {w : Nat} (n : BitVec w) : Solid (display n) := (display_isWord n).solid

theorem blank_whitespace : isWhitespace ' ' = true := by decide

theorem parseCredential_quoted (usage : String) {authType : AuthType} (named : authType.Named)
    (value : Redacted) :
    parseCredential usage
        (quote (escape authType.toText) ++ ' ' :: quote (escape value.expose)) =
      .ok (authType, value) := by
  simp [parseCredential, nextToken_quoted_spaced, nextToken_quoted_last, quote_solid, orMissing,
    authType_roundtrip named, ok_bind, pure_ok]

theorem parseKill_commonName {name : Text} (nonempty : name ≠ []) (plain : ':' ∉ name) :
    parseKill name = .ok (.kill (.commonName name)) := by
  have whole : splitn 3 (· == ':') name = [name] := splitn_single 2 (free_of plain)
  simp [parseKill, nonempty, whole]

theorem parseKill_address {protocol : TransportProtocol} {ip : Text} (port : U16)
    (named : protocol.Named) (plainProtocol : ':' ∉ protocol.toText) (plainIp : ':' ∉ ip) :
    parseKill (protocol.toText ++ ':' :: ip ++ ':' :: display port) =
      .ok (.kill (.address protocol ip port)) := by
  have pieces : splitn 3 (· == ':') (protocol.toText ++ ':' :: ip ++ ':' :: display port) =
      [protocol.toText, ip, display port] := by
    rw [List.append_assoc, List.cons_append,
      splitn_cons 1 (free_of plainProtocol) (by decide), splitn_cons 0 (free_of plainIp) (by decide)]
    rfl
  rw [parseKill, if_neg (by simp), pieces]
  simp [parseUInt_display, transportProtocol_roundtrip named]

theorem parseNeedOk_name {name : Text} (solid : Solid name) (response : NeedOkResponse) :
    parseNeedOk (name ++ ' ' :: response.toText) = .ok (.needOk name response) := by
  have visible : NoWhitespace response.toText := by
    cases response <;> simp [NeedOkResponse.toText, NoWhitespace, lit_eq, isWhitespace]
  have pieces := rsplitOnce_append (a := name) visible blank_whitespace
  rw [parseNeedOk, pieces]
  cases response <;>
    simp [orMissing, NeedOkResponse.toText, choice, trim_eq_self solid.2, ok_bind, pure_ok]

theorem parseNeedStr_quoted {name : Text} (token : IsToken name) (value : Text) :
    parseNeedStr (name ++ ' ' :: quote (escape value)) = .ok (.needStr name value) := by
  simp [parseNeedStr, nextToken_word token (quote_solid _), nextToken_quoted_last, orMissing,
    ok_bind, pure_ok]

theorem cidNumber_display (n : U64) : cidNumber (display n) = .ok n := by
  simp [cidNumber, orMissing, parseUInt_display]

theorem kidNumber_display (n : U64) : kidNumber (display n) = .ok n := by
  simp [kidNumber, orMissing, parseUInt_display]

theorem parseClientAuthNt_ids (cid kid : U64) :
    parseClientAuthNt (display cid ++ ' ' :: display kid) = .ok (.clientAuthNt cid kid) := by
  have pieces := splitOnce_append (b := display kid) (display_noWhitespace cid) blank_whitespace
  simp [parseClientAuthNt, pieces, orMissing, cidNumber_display, trim_eq_self (display_solid kid).2,
    kidNumber_display, ok_bind, pure_ok]

theorem parseClientDeny_reason (cid kid : U64) (reason : Text) :
    parseClientDeny (display cid ++ ' ' :: (display kid ++ ' ' :: quote (escape reason))) =
      .ok (.clientDeny ⟨cid, kid, reason, none⟩) := by
  have last : nextToken [] = none := rfl
  have fromReason : Solid (quote (escape reason)) := quote_solid _
  have fromKid := (display_solid kid).spaced fromReason
  simp [parseClientDeny, nextToken_word (display_isToken _) fromKid,
    nextToken_word (display_isToken _) fromReason, nextToken_quoted_last, last, orMissing,
    cidNumber_display, kidNumber_display, ok_bind, pure_ok]

theorem parseClientDeny_clientReason (cid kid : U64) (reason clientReason : Text) :
    parseClientDeny (display cid ++ ' ' :: (display kid ++ ' ' ::
        (quote (escape reason) ++ ' ' :: quote (escape clientReason)))) =
      .ok (.clientDeny ⟨cid, kid, reason, some clientReason⟩) := by
  have fromClient : Solid (quote (escape clientReason)) := quote_solid _
  have fromReason := (quote_solid (escape reason)).spaced fromClient
  have fromKid := (display_solid kid).spaced fromReason
  simp [parseClientDeny, nextToken_word (display_isToken _) fromKid,
    nextToken_word (display_isToken _) fromReason, nextToken_quoted_spaced reason fromClient,
    nextToken_quoted_last, orMissing, cidNumber_display, kidNumber_display, ok_bind, pure_ok]

theorem parseClientKill_cid (cid : U64) :
    parseClientKill (display cid) = .ok (.clientKill cid none) := by
  have whole := splitOnce_eq_none.mpr (display_noWhitespace cid)
  simp [parseClientKill, whole, number, parseUInt_display, ok_bind, pure_ok]

theorem parseClientKill_message (cid : U64) {message : Text} (solid : Solid message) :
    parseClientKill (display cid ++ ' ' :: message) = .ok (.clientKill cid (some message)) := by
  have pieces := splitOnce_append (b := message) (display_noWhitespace cid) blank_whitespace
  simp [parseClientKill, pieces, number, parseUInt_display, trim_eq_self solid.2, ok_bind, pure_ok]

theorem splitWhitespace_spaced {word rest : Text} (single : IsWord word) :
    splitWhitespace (word ++ ' ' :: rest) = word :: splitWhitespace rest :=
  splitWhitespace_cons single.2 single.1 blank_whitespace

theorem splitWhitespace_word {word : Text} (single : IsWord word) : splitWhitespace word = [word] :=
  splitWhitespace_single single.2 single.1

theorem portNumber_display (port : U16) : portNumber (display port) = .ok port := by
  simp [portNumber, orMissing, parseUInt_display]

theorem parseRemote_skipN (n : U32) :
    parseRemote (lit "SKIP" ++ ' ' :: display n) = .ok (.remote (.skipN n)) := by
  have skip := fixedWords_isWord "SKIP" (by decide)
  simp [parseRemote, splitWhitespace_spaced skip, splitWhitespace_word (display_isWord n), choice,
    parseUInt_display, ok_bind, pure_ok]

theorem parseRemote_modify {host : Text} (word : IsWord host) (port : U16) :
    parseRemote (lit "MOD" ++ ' ' :: (host ++ ' ' :: display port)) =
      .ok (.remote (.modify host port)) := by
  have mod := fixedWords_isWord "MOD" (by decide)
  simp [parseRemote, splitWhitespace_spaced mod, splitWhitespace_spaced word,
    splitWhitespace_word (display_isWord port), portNumber_display]

theorem parseProxy_http {host : Text} (word : IsWord host) (port : U16) :
    parseProxy (lit "HTTP" ++ ' ' :: (host ++ ' ' :: display port)) =
      .ok (.proxy (.http host port false)) := by
  have http := fixedWords_isWord "HTTP" (by decide)
  simp [parseProxy, splitWhitespace_spaced http, splitWhitespace_spaced word,
    splitWhitespace_word (display_isWord port), portNumber_display]

theorem parseProxy_nct {host : Text} (word : IsWord host) (port : U16) :
    parseProxy (lit "HTTP" ++ ' ' :: (host ++ ' ' :: (display port ++ ' ' :: lit "nct"))) =
      .ok (.proxy (.http host port true)) := by
  have http := fixedWords_isWord "HTTP" (by decide)
  have nct := fixedWords_isWord "nct" (by decide)
  simp [parseProxy, splitWhitespace_spaced http, splitWhitespace_spaced word,
    splitWhitespace_spaced (display_isWord port), splitWhitespace_word nct, portNumber_display]

theorem parseProxy_socks {host : Text} (word : IsWord host) (port : U16) :
    parseProxy (lit "SOCKS" ++ ' ' :: (host ++ ' ' :: display port)) =
      .ok (.proxy (.socks host port)) := by
  have socks := fixedWords_isWord "SOCKS" (by decide)
  simp [parseProxy, splitWhitespace_spaced socks, splitWhitespace_spaced word,
    splitWhitespace_word (display_isWord port), portNumber_display]

theorem parseRemoteEntryGet_range (range : RemoteEntryRange) :
    parseRemoteEntryGet range.toText = .ok (.remoteEntryGet range) := by
  have other (n : U32) : display n ≠ lit "all" := display_ne_lit n (c := 'a') (by simp) (by decide)
  cases range with
  | single index =>
    have whole : splitn 2 isWhitespace (display index) = [display index] :=
      splitn_single 1 (display_noWhitespace index)
    simp [parseRemoteEntryGet, RemoteEntryRange.toText, display_ne_nil, other, whole,
      parseUInt_display]
  | range start stop =>
    have blank : ' ' ∈ display start ++ ' ' :: display stop := by simp
    have spaced : display start ++ ' ' :: display stop ≠ lit "all" := by
      intro same
      rw [same, lit_eq] at blank
      simp at blank
    have pieces : splitn 2 isWhitespace (display start ++ ' ' :: display stop) =
        [display start, display stop] :=
      splitn_cons 0 (display_noWhitespace start) blank_whitespace
    simp [parseRemoteEntryGet, RemoteEntryRange.toText, spaced, pieces, parseUInt_display,
      trim_eq_self (display_solid stop).2]
  | all => simp [parseRemoteEntryGet, RemoteEntryRange.toText, lit_eq]

theorem parsePushUpdateBroad_quoted (options : Text) :
    parsePushUpdateBroad (quote (escape options)) = .ok (.pushUpdateBroad options) := by
  simp [parsePushUpdateBroad, nextToken_quoted_last, orMissing, ok_bind, pure_ok]

theorem parsePushUpdateCid_quoted (cid : U64) (options : Text) :
    parsePushUpdateCid (display cid ++ ' ' :: quote (escape options)) =
      .ok (.pushUpdateCid cid options) := by
  simp [parsePushUpdateCid, nextToken_word (display_isToken cid) (quote_solid _),
    nextToken_quoted_last, orMissing, parseUInt_display, ok_bind, pure_ok]

theorem parseClientPendingAuth_extra (cid kid : U64) {extra : Text} (token : IsToken extra)
    (timeout : U32) :
    parseClientPendingAuth
        (display cid ++ ' ' :: (display kid ++ ' ' :: (extra ++ ' ' :: display timeout))) =
      .ok (.clientPendingAuth cid kid extra timeout) := by
  have fromExtra := token.1.solid.spaced (display_solid timeout)
  have fromKid := (display_solid kid).spaced fromExtra
  simp [parseClientPendingAuth, nextToken_word (display_isToken _) fromKid,
    nextToken_word (display_isToken _) fromExtra, nextToken_word token (display_solid timeout),
    nextToken_last (display_isToken timeout), orMissing, number, parseUInt_display,
    cidNumber_display, kidNumber_display, ok_bind, pure_ok]

theorem parseCrResponse_token {response : Redacted} (token : IsToken response.expose) :
    parseCrResponse response.expose = .ok (.crResponse response) := by
  simp [parseCrResponse, nextToken_last token, orMissing, ok_bind, pure_ok]

theorem streamMode_solid (m : StreamMode) : Solid m.toText := by
  cases m with
  | recent n => exact display_solid n
  | _ => simp [StreamMode.toText, Solid, Trimmed, lit_eq, isWhitespace]

theorem authRetryMode_solid (m : AuthRetryMode) : Solid m.toText := by
  cases m <;> simp [AuthRetryMode.toText, Solid, Trimmed, lit_eq, isWhitespace]

theorem signal_solid (s : Signal) : Solid s.toText := by
  cases s <;> simp [Signal.toText, Solid, Trimmed, lit_eq, isWhitespace]

theorem needOkResponse_solid (r : NeedOkResponse) : Solid r.toText := by
  cases r <;> simp [NeedOkResponse.toText, Solid, Trimmed, lit_eq, isWhitespace]

theorem remoteEntryRange_solid (r : RemoteEntryRange) : Solid r.toText := by
  cases r with
  | single index => exact display_solid index
  | range start stop => exact (display_solid start).spaced (display_solid stop)
  | all => simp [RemoteEntryRange.toText, Solid, Trimmed, lit_eq, isWhitespace]

theorem streamMode_toText (m : StreamMode) : streamMode m.toText = .ok m := by
  rw [streamMode, streamMode_roundtrip]
  rfl

/-! Commands -/

/- The conditions on the fields of a command that a user can type: an unquoted field must be
   what the parser takes for one field. -/
def Typable : OvpnCommand → Prop
  | .challengeResponse _ _ | .staticChallengeResponse _ _ | .managementPassword _ | .raw _
  | .rawMultiLine _ | .rsaSig _ | .pkSig _ | .certificate _ | .clientAuth _ _ _ => False
  | .username authType _ | .password authType _ => authType.Named
  | .kill (.commonName name) => Solid name ∧ ':' ∉ name
  | .kill (.address protocol ip _) =>
    protocol.Named ∧ (NoWhitespace protocol.toText ∧ ':' ∉ protocol.toText) ∧
      NoWhitespace ip ∧ ':' ∉ ip
  | .needOk name _ => IsWord name
  | .needStr name _ => IsToken name
  | .clientKill _ (some message) => Solid message
  | .remote (.modify host _) | .proxy (.http host _ _) | .proxy (.socks host _) => IsWord host
  | .clientPendingAuth _ _ extra _ => IsToken extra
  | .crResponse response => IsToken response.expose
  | _ => True

section Commands
variable (engine : Bytes → Text) (mode : EncoderMode)

/-! The lines that carry tokens -/

theorem credential_line (keyword authField valueField : String) {authType : AuthType}
    {value : Redacted} (authClean : WireClean authType.toText)
    (valueClean : WireClean value.expose) :
    credentialWire keyword authField valueField mode authType value =
      .ok (.line (lit keyword ++ ' ' ::
        (quote (escape authType.toText) ++ ' ' :: quote (escape value.expose)))) := by
  simp [credentialWire, quoted_of_clean authClean, quoted_of_clean valueClean, ok_bind, pure_ok]

theorem clientDeny_line {cid kid : U64} {reason : Text} (clean : WireClean reason) :
    commandWire engine mode (.clientDeny ⟨cid, kid, reason, none⟩) =
      .ok (.line (lit "client-deny" ++ ' ' ::
        (display cid ++ ' ' :: (display kid ++ ' ' :: quote (escape reason))))) := by
  simp [commandWire, clientDenyWire, quoted_of_clean clean, lit_eq, ok_bind, pure_ok]

theorem clientDeny_line_client {cid kid : U64} {reason clientReason : Text}
    (clean : WireClean reason) (clientClean : WireClean clientReason) :
    commandWire engine mode (.clientDeny ⟨cid, kid, reason, some clientReason⟩) =
      .ok (.line (lit "client-deny" ++ ' ' :: (display cid ++ ' ' :: (display kid ++ ' ' ::
        (quote (escape reason) ++ ' ' :: quote (escape clientReason)))))) := by
  simp [commandWire, clientDenyWire, quoted_of_clean clean, quoted_of_clean clientClean, lit_eq,
    ok_bind, pure_ok]

theorem needStr_line {name value : Text} (nameClean : WireClean name)
    (valueClean : WireClean value) :
    commandWire engine mode (.needStr name value) =
      .ok (.line (lit "needstr" ++ ' ' :: (name ++ ' ' :: quote (escape value)))) := by
  simp [commandWire, wireSafe_of_clean nameClean, quoted_of_clean valueClean, lit_eq, ok_bind,
    pure_ok]

theorem clientPendingAuth_line {cid kid : U64} {extra : Text} {timeout : U32}
    (clean : WireClean extra) :
    commandWire engine mode (.clientPendingAuth cid kid extra timeout) =
      .ok (.line (lit "client-pending-auth" ++ ' ' ::
        (display cid ++ ' ' :: (display kid ++ ' ' :: (extra ++ ' ' :: display timeout))))) := by
  simp [commandWire, wireSafe_of_clean clean, lit_eq]

theorem crResponse_line {response : Redacted} (clean : WireClean response.expose) :
    commandWire engine mode (.crResponse response) =
      .ok (.line (lit "cr-response" ++ ' ' :: response.expose)) := by
  simp [commandWire, wireSafe_of_clean clean, lit_eq]

theorem pushUpdateBroad_line {options : Text} (clean : WireClean options) :
    commandWire engine mode (.pushUpdateBroad options) =
      .ok (.line (lit "push-update-broad" ++ ' ' :: quote (escape options))) := by
  simp [commandWire, quoted_of_clean clean, lit_eq]

theorem pushUpdateCid_line {cid : U64} {options : Text} (clean : WireClean options) :
    commandWire engine mode (.pushUpdateCid cid options) =
      .ok (.line (lit "push-update-cid" ++ ' ' ::
        (display cid ++ ' ' :: quote (escape options)))) := by
  simp [commandWire, quoted_of_clean clean, lit_eq]

/-! Lines that read back -/

theorem killName_reads {name : Text} (solid : Solid name)
    (parsed : parseKill name = .ok (.kill (.commonName name))) (clean : WireClean name) :
    Reads (.kill (.commonName name)) (commandWire engine mode (.kill (.commonName name))) := by
  refine reads_args "kill" name ?_ (by decide) solid ?_
  · simp [commandWire, killWire, wireSafe_of_clean clean, lit_eq]
  · simp [parseCommand, parsed]

theorem killAddress_reads {protocol : TransportProtocol} {ip : Text} {port : U16}
    (named : protocol.Named) (plainProtocol : ':' ∉ protocol.toText) (plainIp : ':' ∉ ip)
    (solid : Solid (protocol.toText ++ ':' :: ip ++ ':' :: display port)) (clean : WireClean ip) :
    Reads (.kill (.address protocol ip port))
      (commandWire engine mode (.kill (.address protocol ip port))) := by
  refine reads_args "kill" (protocol.toText ++ ':' :: ip ++ ':' :: display port) ?_
    (by decide) solid ?_
  · simp [commandWire, killWire, wireSafe_of_clean clean, lit_eq]
  · simpa [parseCommand] using parseKill_address port named plainProtocol plainIp

theorem kill_reads {target : KillTarget} (typable : Typable (.kill target))
    (clean : ∀ s ∈ gatedFields (.kill target), WireClean s) :
    Reads (.kill target) (commandWire engine mode (.kill target)) := by
  cases target with
  | commonName name =>
    obtain ⟨solid, plain⟩ := typable
    exact killName_reads engine mode solid (parseKill_commonName solid.1 plain)
      (clean name (by simp [gatedFields]))
  | address protocol ip port =>
    obtain ⟨named, ⟨visibleProtocol, plainProtocol⟩, visibleIp, plainIp⟩ := typable
    have word : IsWord (protocol.toText ++ ':' :: ip ++ ':' :: display port) := by
      refine ⟨by simp, fun c member => ?_⟩
      simp only [List.mem_append, List.mem_cons] at member
      rcases member with (first | rfl | second) | rfl | third
      · exact visibleProtocol c first
      · decide
      · exact visibleIp c second
      · decide
      · exact display_noWhitespace port c third
    exact killAddress_reads engine mode named plainProtocol plainIp word.solid
      (clean ip (by simp [gatedFields]))

theorem needOk_reads {name : Text} (solid : Solid name) (response : NeedOkResponse)
    (clean : WireClean name) :
    Reads (.needOk name response) (commandWire engine mode (.needOk name response)) := by
  refine reads_args "needok" (name ++ ' ' :: response.toText) ?_ (by decide)
    (solid.spaced (needOkResponse_solid response)) ?_
  · simp [commandWire, wireSafe_of_clean clean, lit_eq]
  · simp [parseCommand, parseNeedOk_name solid]

theorem remote_reads {action : RemoteAction} (typable : Typable (.remote action))
    (clean : ∀ s ∈ gatedFields (.remote action), WireClean s) :
    Reads (.remote action) (commandWire engine mode (.remote action)) := by
  cases action with
  | accept =>
    refine reads_args "remote" (lit "ACCEPT") ?_ (by decide) (argument "ACCEPT" (by decide)) ?_
    · simp [commandWire, remoteWire, lit_eq, pure_ok]
    · have whole := splitWhitespace_word (fixedWords_isWord "ACCEPT" (by decide))
      simp [parseCommand, parseRemote, whole]
  | skip =>
    refine reads_args "remote" (lit "SKIP") ?_ (by decide) (argument "SKIP" (by decide)) ?_
    · simp [commandWire, remoteWire, lit_eq, pure_ok]
    · have whole := splitWhitespace_word (fixedWords_isWord "SKIP" (by decide))
      simp [parseCommand, parseRemote, whole]
  | skipN n =>
    have skip := argument "SKIP" (by decide)
    refine reads_args "remote" (lit "SKIP" ++ ' ' :: display n) ?_ (by decide)
      (skip.spaced (display_solid n)) ?_
    · simp [commandWire, remoteWire, lit_eq, pure_ok]
    · simp [parseCommand, parseRemote_skipN]
  | modify host port =>
    have hostClean : WireClean host := clean host (by simp [gatedFields])
    have mod := argument "MOD" (by decide)
    refine reads_args "remote" (lit "MOD" ++ ' ' :: (host ++ ' ' :: display port)) ?_
      (by decide) (mod.spaced (typable.solid.spaced (display_solid port))) ?_
    · simp [commandWire, remoteWire, wireSafe_of_clean hostClean, lit_eq]
    · simp [parseCommand, parseRemote_modify typable]

theorem proxy_reads {action : ProxyAction} (typable : Typable (.proxy action))
    (clean : ∀ s ∈ gatedFields (.proxy action), WireClean s) :
    Reads (.proxy action) (commandWire engine mode (.proxy action)) := by
  cases action with
  | none =>
    refine reads_args "proxy" (lit "NONE") ?_ (by decide) (argument "NONE" (by decide)) ?_
    · simp [commandWire, proxyWire, lit_eq, pure_ok]
    · have whole := splitWhitespace_word (fixedWords_isWord "NONE" (by decide))
      simp [parseCommand, parseProxy, whole]
  | http host port nonCleartextOnly =>
    have hostClean : WireClean host := clean host (by simp [gatedFields])
    have http := argument "HTTP" (by decide)
    cases nonCleartextOnly with
    | false =>
      refine reads_args "proxy" (lit "HTTP" ++ ' ' :: (host ++ ' ' :: display port)) ?_
        (by decide) (http.spaced (typable.solid.spaced (display_solid port))) ?_
      · simp [commandWire, proxyWire, wireSafe_of_clean hostClean, lit_eq]
      · simp [parseCommand, parseProxy_http typable]
    | true =>
      have nct := argument "nct" (by decide)
      refine reads_args "proxy"
        (lit "HTTP" ++ ' ' :: (host ++ ' ' :: (display port ++ ' ' :: lit "nct"))) ?_
        (by decide)
        (http.spaced (typable.solid.spaced ((display_solid port).spaced nct))) ?_
      · simp [commandWire, proxyWire, wireSafe_of_clean hostClean, lit_eq]
      · simp [parseCommand, parseProxy_nct typable]
  | socks host port =>
    have hostClean : WireClean host := clean host (by simp [gatedFields])
    have socks := argument "SOCKS" (by decide)
    refine reads_args "proxy" (lit "SOCKS" ++ ' ' :: (host ++ ' ' :: display port)) ?_
      (by decide) (socks.spaced (typable.solid.spaced (display_solid port))) ?_
    · simp [commandWire, proxyWire, wireSafe_of_clean hostClean, lit_eq]
    · simp [parseCommand, parseProxy_socks typable]

theorem clientDeny_reads (deny : ClientDeny)
    (clean : ∀ s ∈ gatedFields (.clientDeny deny), WireClean s) :
    Reads (.clientDeny deny) (commandWire engine mode (.clientDeny deny)) := by
  obtain ⟨cid, kid, reason, clientReason⟩ := deny
  have reasonClean : WireClean reason := clean reason (by simp [gatedFields])
  cases clientReason with
  | none =>
    refine reads_args "client-deny"
      (display cid ++ ' ' :: (display kid ++ ' ' :: quote (escape reason)))
      (clientDeny_line engine mode reasonClean) (by decide)
      ((display_solid cid).spaced ((display_solid kid).spaced (quote_solid _))) ?_
    simp [parseCommand, parseClientDeny_reason]
  | some clientReason =>
    have clientClean : WireClean clientReason := clean clientReason (by simp [gatedFields])
    refine reads_args "client-deny"
      (display cid ++ ' ' :: (display kid ++ ' ' ::
        (quote (escape reason) ++ ' ' :: quote (escape clientReason))))
      (clientDeny_line_client engine mode reasonClean clientClean) (by decide)
      ((display_solid cid).spaced
        ((display_solid kid).spaced ((quote_solid _).spaced (quote_solid _)))) ?_
    simp [parseCommand, parseClientDeny_clientReason]

theorem clientKill_reads {cid : U64} {message : Option Text}
    (typable : Typable (.clientKill cid message))
    (clean : ∀ s ∈ gatedFields (.clientKill cid message), WireClean s) :
    Reads (.clientKill cid message) (commandWire engine mode (.clientKill cid message)) := by
  cases message with
  | none =>
    refine reads_args "client-kill" (display cid) ?_ (by decide) (display_solid cid) ?_
    · simp [commandWire, clientKillWire, lit_eq, pure_ok]
    · simp [parseCommand, parseClientKill_cid]
  | some message =>
    have messageClean : WireClean message := clean message (by simp [gatedFields])
    refine reads_args "client-kill" (display cid ++ ' ' :: message) ?_ (by decide)
      ((display_solid cid).spaced typable) ?_
    · simp [commandWire, clientKillWire, wireSafe_of_clean messageClean, lit_eq]
    · simp [parseCommand, parseClientKill_message cid typable]

theorem credential_reads {cmd : OvpnCommand} (keyword authField valueField : String)
    (authType : AuthType) (value : Redacted)
    (form : commandWire engine mode cmd =
      credentialWire keyword authField valueField mode authType value)
    (authClean : WireClean authType.toText) (valueClean : WireClean value.expose)
    (known : keyword ∈ fixedWords)
    (parsed : ∀ line, parseCommand (lit keyword)
      (quote (escape authType.toText) ++ ' ' :: quote (escape value.expose)) line = .ok cmd) :
    Reads cmd (commandWire engine mode cmd) :=
  reads_args keyword (quote (escape authType.toText) ++ ' ' :: quote (escape value.expose))
    (form.trans (credential_line mode keyword authField valueField authClean valueClean)) known
    ((quote_solid _).spaced (quote_solid _)) parsed

theorem command_reads (cmd : OvpnCommand) (typable : Typable cmd)
    (clean : ∀ s ∈ gatedFields cmd, WireClean s) : Reads cmd (commandWire engine mode cmd) := by
  cases cmd with
  | challengeResponse => exact typable.elim
  | staticChallengeResponse => exact typable.elim
  | managementPassword => exact typable.elim
  | raw => exact typable.elim
  | rawMultiLine => exact typable.elim
  | rsaSig => exact typable.elim
  | pkSig => exact typable.elim
  | certificate => exact typable.elim
  | clientAuth => exact typable.elim
  | kill target => exact kill_reads engine mode typable clean
  | remote action => exact remote_reads engine mode typable clean
  | proxy action => exact proxy_reads engine mode typable clean
  | clientDeny deny => exact clientDeny_reads engine mode deny clean
  | clientKill cid message => exact clientKill_reads engine mode typable clean
  | username authType value =>
    refine credential_reads engine mode "username" _ _ authType value rfl
      (clean _ (by simp [gatedFields])) (clean _ (by simp [gatedFields])) (by decide) ?_
    simp [parseCommand, parseUsername, parseCredential_quoted _ typable, ok_bind, pure_ok]
  | password authType value =>
    refine credential_reads engine mode "password" _ _ authType value rfl
      (clean _ (by simp [gatedFields])) (clean _ (by simp [gatedFields])) (by decide) ?_
    simp [parseCommand, parsePassword, parseCredential_quoted _ typable, ok_bind, pure_ok]
  | status format =>
    cases format with
    | v1 => exact reads_word "status" rfl (by decide) (by simp [parseCommand, parseStatus])
    | v2 =>
      refine reads_args "status" (lit "2") ?_ (by decide) (argument "2" (by decide)) ?_
      · simp [commandWire, StatusFormat.toText, lit_eq, pure_ok]
      · simp [parseCommand, parseStatus, lit_eq]
    | v3 =>
      refine reads_args "status" (lit "3") ?_ (by decide) (argument "3" (by decide)) ?_
      · simp [commandWire, StatusFormat.toText, lit_eq, pure_ok]
      · simp [parseCommand, parseStatus, lit_eq]
  | state => exact reads_word "state" rfl (by decide) (by simp [parseCommand, parseState])
  | stateStream m =>
    refine reads_args "state" m.toText ?_ (by decide) (streamMode_solid m) ?_
    · simp [commandWire, lit_eq, pure_ok]
    · simp [parseCommand, parseState, (streamMode_solid m).1, streamMode_toText]
  | version =>
    exact reads_word "version" rfl (by decide) (by simp [parseCommand, parseVersion])
  | setVersion n =>
    refine reads_args "version" (display n) ?_ (by decide) (display_solid n) ?_
    · simp [commandWire, lit_eq, pure_ok]
    · simp [parseCommand, parseVersion, display_ne_nil, choice, parseUInt_display, ok_bind, pure_ok]
  | pid => exact reads_word "pid" rfl (by decide) (by simp [parseCommand])
  | help => exact reads_word "help" rfl (by decide) (by simp [parseCommand])
  | net => exact reads_word "net" rfl (by decide) (by simp [parseCommand])
  | loadStats => exact reads_word "load-stats" rfl (by decide) (by simp [parseCommand])
  | forgetPasswords =>
    exact reads_word "forget-passwords" rfl (by decide) (by simp [parseCommand])
  | pkcs11IdCount =>
    exact reads_word "pkcs11-id-count" rfl (by decide) (by simp [parseCommand])
  | remoteEntryCount =>
    exact reads_word "remote-entry-count" rfl (by decide) (by simp [parseCommand])
  | exit => exact reads_word "exit" rfl (by decide) (by simp [parseCommand])
  | quit => exact reads_word "quit" rfl (by decide) (by simp [parseCommand])
  | verb level =>
    cases level with
    | none => exact reads_word "verb" rfl (by decide) (by simp [parseCommand, parseVerb])
    | some n =>
      refine reads_args "verb" (display n) ?_ (by decide) (display_solid n) ?_
      · simp [commandWire, lit_eq, pure_ok]
      · simp [parseCommand, parseVerb, display_ne_nil, number, parseUInt_display]
  | mute threshold =>
    cases threshold with
    | none => exact reads_word "mute" rfl (by decide) (by simp [parseCommand, parseMute])
    | some n =>
      refine reads_args "mute" (display n) ?_ (by decide) (display_solid n) ?_
      · simp [commandWire, lit_eq, pure_ok]
      · simp [parseCommand, parseMute, display_ne_nil, number, parseUInt_display]
  | log m =>
    refine reads_args "log" m.toText ?_ (by decide) (streamMode_solid m) ?_
    · simp [commandWire, lit_eq, pure_ok]
    · simp [parseCommand, streamMode_toText]
  | echo m =>
    refine reads_args "echo" m.toText ?_ (by decide) (streamMode_solid m) ?_
    · simp [commandWire, lit_eq, pure_ok]
    · simp [parseCommand, streamMode_toText]
  | byteCount n =>
    refine reads_args "bytecount" (display n) ?_ (by decide) (display_solid n) ?_
    · simp [commandWire, lit_eq, pure_ok]
    · simp [parseCommand, number, parseUInt_display]
  | signal sig =>
    refine reads_args "signal" sig.toText ?_ (by decide) (signal_solid sig) ?_
    · simp [commandWire, lit_eq, pure_ok]
    · simp [parseCommand, signal_roundtrip, Except.mapError]
  | holdQuery => exact reads_word "hold" rfl (by decide) (by simp [parseCommand, parseHold])
  | holdOn =>
    refine reads_args "hold" (lit "on") ?_ (by decide) (argument "on" (by decide)) ?_
    · simp [commandWire, lit_eq, pure_ok]
    · simp [parseCommand, parseHold, lit_eq]
  | holdOff =>
    refine reads_args "hold" (lit "off") ?_ (by decide) (argument "off" (by decide)) ?_
    · simp [commandWire, lit_eq, pure_ok]
    · simp [parseCommand, parseHold, lit_eq]
  | holdRelease =>
    refine reads_args "hold" (lit "release") ?_ (by decide) (argument "release" (by decide)) ?_
    · simp [commandWire, lit_eq, pure_ok]
    · simp [parseCommand, parseHold, lit_eq]
  | authRetry m =>
    refine reads_args "auth-retry" m.toText ?_ (by decide) (authRetryMode_solid m) ?_
    · simp [commandWire, lit_eq, pure_ok]
    · simp [parseCommand, authRetryMode_roundtrip, Except.mapError]
  | needOk name response =>
    exact needOk_reads engine mode typable.solid response (clean name (by simp [gatedFields]))
  | needStr name value =>
    have nameClean : WireClean name := clean name (by simp [gatedFields])
    have valueClean : WireClean value := clean value (by simp [gatedFields])
    refine reads_args "needstr" (name ++ ' ' :: quote (escape value))
      (needStr_line engine mode nameClean valueClean) (by decide)
      (typable.1.solid.spaced (quote_solid _)) ?_
    simp [parseCommand, parseNeedStr_quoted typable]
  | pkcs11IdGet n =>
    refine reads_args "pkcs11-id-get" (display n) ?_ (by decide) (display_solid n) ?_
    · simp [commandWire, lit_eq, pure_ok]
    · simp [parseCommand, number, parseUInt_display]
  | clientAuthNt cid kid =>
    refine reads_args "client-auth-nt" (display cid ++ ' ' :: display kid) ?_ (by decide)
      ((display_solid cid).spaced (display_solid kid)) ?_
    · simp [commandWire, lit_eq, pure_ok]
    · simp [parseCommand, parseClientAuthNt_ids]
  | clientPendingAuth cid kid extra timeout =>
    have extraClean : WireClean extra := clean extra (by simp [gatedFields])
    refine reads_args "client-pending-auth"
      (display cid ++ ' ' :: (display kid ++ ' ' :: (extra ++ ' ' :: display timeout)))
      (clientPendingAuth_line engine mode extraClean) (by decide)
      ((display_solid cid).spaced
        ((display_solid kid).spaced (typable.1.solid.spaced (display_solid timeout)))) ?_
    simp [parseCommand, parseClientPendingAuth_extra cid kid typable]
  | crResponse response =>
    have responseClean : WireClean response.expose := clean _ (by simp [gatedFields])
    refine reads_args "cr-response" response.expose (crResponse_line engine mode responseClean)
      (by decide) typable.1.solid ?_
    simp [parseCommand, parseCrResponse_token typable]
  | envFilter n =>
    refine reads_args "env-filter" (display n) ?_ (by decide) (display_solid n) ?_
    · simp [commandWire, lit_eq, pure_ok]
    · simp [parseCommand, parseEnvFilter, display_ne_nil, number, parseUInt_display]
  | remoteEntryGet range =>
    refine reads_args "remote-entry-get" range.toText ?_ (by decide)
      (remoteEntryRange_solid range) ?_
    · simp [commandWire, lit_eq, pure_ok]
    · simp [parseCommand, parseRemoteEntryGet_range]
  | pushUpdateBroad options =>
    have optionsClean : WireClean options := clean options (by simp [gatedFields])
    refine reads_args "push-update-broad" (quote (escape options))
      (pushUpdateBroad_line engine mode optionsClean) (by decide) (quote_solid _) ?_
    simp [parseCommand, parsePushUpdateBroad_quoted]
  | pushUpdateCid cid options =>
    have optionsClean : WireClean options := clean options (by simp [gatedFields])
    refine reads_args "push-update-cid" (display cid ++ ' ' :: quote (escape options))
      (pushUpdateCid_line engine mode optionsClean) (by decide)
      ((display_solid cid).spaced (quote_solid _)) ?_
    simp [parseCommand, parsePushUpdateCid_quoted]

/-- Whatever the mode, the bytes of a typable command are one line that parses to the command. -/
theorem command_roundtrip (c : OvpnCodec) (cmd : OvpnCommand) (typable : Typable cmd)
    (clean : ∀ s ∈ gatedFields cmd, WireClean s) (dst : Bytes) :
    ∃ bytes, (c.encode engine cmd dst).2 = (dst ++ bytes ++ [newline], .ok ()) ∧
      (fromUtf8 bytes).map OvpnCommand.fromStr = some (.ok cmd) := by
  obtain ⟨text, form, parsed⟩ := command_reads engine c.encoderMode cmd typable clean
  refine ⟨toUtf8 text, ?_, ?_⟩
  · rw [encode_line form (Or.inr (by simp [wireBody]))]
    simp [wireBytes, firstLine, wireBody, trailer, lineBytes]
  · rw [fromUtf8_toUtf8, Option.map_some, parsed]

end Commands

theorem needStr_roundtrip :
    ∃ bytes,
      (OvpnCodec.new.encode Base64Text.encode
          (.needStr (lit "name") (lit "a \"b\\ c")) []).2 = ([] ++ bytes ++ [newline], .ok ()) ∧
        (fromUtf8 bytes).map OvpnCommand.fromStr =
          some (.ok (.needStr (lit "name") (lit "a \"b\\ c"))) :=
  command_roundtrip Base64Text.encode OvpnCodec.new (.needStr (lit "name") (lit "a \"b\\ c"))
    (show IsToken (lit "name") by decide +kernel) (by decide +kernel) []

end MgmtCommandRoundTrip
