import OpenvpnMgmt.NotificationRoundTrip

/-!
The notification parsers accept what is rendered from their results. A parser keeps less than the
line: a field left out is empty, a protocol is in small letters, a number has no leading zeros.
Rendered again, the payload is a whole line that parses alike.
-/
namespace MgmtNormalForms
open TextOps MgmtValues MgmtMessage MgmtNotifications MgmtServerStream MgmtNotificationRoundTrip

/-! Whole lines -/

theorem whole_nil : WholeLine [] := ⟨by simp, by simp⟩

theorem whole_suffix {line tail : Text} (whole : WholeLine line) (ending : tail <:+ line) :
    WholeLine tail := by
  obtain ⟨front, rfl⟩ := ending
  constructor
  · intro member
    exact whole.1 (by simp [member])
  · intro last
    apply whole.2
    rw [List.getLast?_append, last]
    rfl

theorem whole_append {front back : Text} (clean : '\n' ∉ front) (whole : WholeLine back)
    (nonempty : back ≠ []) : WholeLine (front ++ back) := by
  constructor
  · simp [clean, whole.1]
  · rw [List.getLast?_append, List.getLast?_eq_some_getLast nonempty]
    have last := whole.2
    rw [List.getLast?_eq_some_getLast nonempty] at last
    simpa using last

theorem whole_sep {front back : Text} {s : Char} (clean : '\n' ∉ front)
    (other : s ≠ '\n' ∧ s ≠ '\r') (whole : WholeLine back) : WholeLine (front ++ s :: back) := by
  apply whole_append clean _ (by simp)
  cases back with
  | nil => exact ⟨by simp [Ne.symm other.1], by simp [other.2]⟩
  | cons c rest =>
    have alone : '\n' ∉ [s] := by simp [Ne.symm other.1]
    exact whole_append alone whole (by simp)

theorem whole_notice {kind payload : Text} (clean : '\n' ∉ kind) (whole : WholeLine payload) :
    WholeLine (noticeLine kind payload) := by
  have begun : '\n' ∉ '>' :: kind := by simp [clean]
  exact whole_sep begun (by simp) whole

theorem clean_inside {line part : Text} (whole : '\n' ∉ line) (inside : part <:+: line) :
    '\n' ∉ part := by
  intro member
  exact whole (inside.subset member)

theorem clean_display {w : Nat} (n : BitVec w) : '\n' ∉ display n :=
  not_mem_display n (by decide)

theorem whole_display {w : Nat} (n : BitVec w) : WholeLine (display n) := by
  refine ⟨clean_display n, ?_⟩
  intro last
  exact not_mem_display n (by decide) (List.mem_of_getLast? last)

theorem clean_portText (port : Option U16) : '\n' ∉ portText port := by
  cases port with
  | none => simp [portText]
  | some n => simpa [portText] using clean_display n

/-! Fields -/

theorem free_iff {t : Text} {s : Char} : (∀ c ∈ t, (c == s) = false) ↔ s ∉ t := by
  constructor
  · intro free member
    simpa using free s member
  · exact free_of

theorem plain_piece {n i : Nat} {t piece : Text} {s : Char}
    (found : (splitn n (· == s) t)[i]? = some piece) (early : i + 1 < n) : s ∉ piece :=
  free_iff.mp ((splitn_piece found).2.1 early)

theorem clean_piece {n i : Nat} {t piece : Text} {s : Char} (whole : WholeLine t)
    (found : (splitn n (· == s) t)[i]? = some piece) : '\n' ∉ piece :=
  clean_inside whole.1 (splitn_piece found).1

theorem whole_last {n i : Nat} {t piece : Text} {s : Char} (whole : WholeLine t)
    (found : (splitn n (· == s) t)[i]? = some piece) (last : i + 1 = n) : WholeLine piece :=
  whole_suffix whole ((splitn_piece found).2.2 last)

theorem optional_piece {p : Text → Prop} {o : Option Text} (empty : p [])
    (each : ∀ piece, o = some piece → p piece) : p (o.getD []) := by
  cases o with
  | none => exact empty
  | some piece => exact each piece rfl

theorem splitOnce_parts {t a b : Text} {s : Char} (whole : WholeLine t)
    (split : splitOnce (· == s) t = some (a, b)) : s ∉ a ∧ '\n' ∉ a ∧ WholeLine b := by
  obtain ⟨c, -, same, clean⟩ := splitOnce_eq_some split
  refine ⟨free_iff.mp clean, ?_, whole_suffix whole ⟨a ++ [c], by simp [same]⟩⟩
  intro member
  exact whole.1 (by rw [same]; simp [member])

/-! Names -/

/- A known name reads as a value that spells it, any other is given back. -/
def Reads {α : Type} (named : α → Prop) (toText : α → Text) (name : Text) : Except Text α → Prop
  | .ok value => named value ∧ toText value = name
  | .error e => e = name

theorem reads_ite {α : Type} {named : α → Prop} {toText : α → Text} {name word : Text} {value : α}
    {other : Except Text α} (known : named value) (spelled : toText value = word)
    (rest : Reads named toText name other) :
    Reads named toText name (if name = word then .ok value else other) := by
  split
  · rename_i same
    exact ⟨known, spelled.trans same.symm⟩
  · exact rest

theorem authType_named (name : Text) :
    (parseAuthType name).Named ∧ (parseAuthType name).toText = name := by
  have reads : Reads AuthType.Named AuthType.toText name (AuthType.fromStr name) := by
    unfold AuthType.fromStr
    repeat apply reads_ite (by trivial) (by rfl)
    rfl
  unfold parseAuthType
  cases same : AuthType.fromStr name with
  | error e =>
    obtain rfl : e = name := by rwa [same] at reads
    exact ⟨same, rfl⟩
  | ok authType => rwa [same] at reads

theorem state_named (name : Text) :
    (orUnknown .unknown (OpenVpnState.fromStr name)).Named ∧
      (orUnknown .unknown (OpenVpnState.fromStr name)).toText = name := by
  have reads : Reads OpenVpnState.Named OpenVpnState.toText name (OpenVpnState.fromStr name) := by
    unfold OpenVpnState.fromStr
    repeat apply reads_ite (by trivial) (by rfl)
    rfl
  cases same : OpenVpnState.fromStr name with
  | error e =>
    obtain rfl : e = name := by rwa [same] at reads
    exact ⟨same, rfl⟩
  | ok state => rwa [same] at reads

theorem level_named (flag : Text) :
    (orUnknown .unknown (LogLevel.fromStr flag)).Named ∧
      (orUnknown .unknown (LogLevel.fromStr flag)).toText = flag := by
  have reads : Reads LogLevel.Named LogLevel.toText flag (LogLevel.fromStr flag) := by
    unfold LogLevel.fromStr
    repeat apply reads_ite (by trivial) (by rfl)
    rfl
  cases same : LogLevel.fromStr flag with
  | error e =>
    obtain rfl : e = flag := by rwa [same] at reads
    exact ⟨same, rfl⟩
  | ok level => rwa [same] at reads

/-- A protocol in capitals comes out in small letters. -/
theorem protocol_named (name : Text) :
    (orUnknown .unknown (TransportProtocol.fromStr name)).Named ∧
      ((orUnknown .unknown (TransportProtocol.fromStr name)).toText = name ∨
        (orUnknown .unknown (TransportProtocol.fromStr name)).toText ∈ [lit "udp", lit "tcp"]) := by
  cases same : TransportProtocol.fromStr name with
  | error e =>
    obtain rfl : e = name := by
      unfold TransportProtocol.fromStr at same
      split_ifs at same
      cases same
      rfl
    exact ⟨same, Or.inl rfl⟩
  | ok protocol =>
    unfold TransportProtocol.fromStr at same
    split_ifs at same
    all_goals
      cases same
      exact ⟨trivial, Or.inr (by simp [orUnknown, TransportProtocol.toText])⟩

/-! Parsers accept what is rendered from their results -/

def Settles (kind : Text) (parse : Text → Option Notification) : Prop :=
  ∀ payload n, WholeLine payload → parse payload = some n →
    ∃ again, notificationToWire n = [noticeLine kind again] ∧ WholeLine again ∧ parse again = some n

theorem comma_sep {front back : Text} (clean : '\n' ∉ front) (whole : WholeLine back) :
    WholeLine (front ++ ',' :: back) := whole_sep clean (by simp) whole

theorem state_settles : Settles (lit "STATE") parseState := by
  intro payload n whole parsed
  simp only [parseState, Option.bind_eq_bind, Option.bind_eq_some_iff, Option.pure_def,
    Option.some.injEq] at parsed
  obtain ⟨_, _, timestamp, _, name, named, description, described, localIp, here, remoteIp, there,
    rfl⟩ := parsed
  have spelled := state_named name
  have addr : ',' ∉ (splitn 9 (· == ',') payload)[6]?.getD [] ∧
      '\n' ∉ (splitn 9 (· == ',') payload)[6]?.getD [] :=
    optional_piece (p := fun piece => ',' ∉ piece ∧ '\n' ∉ piece) (by simp) fun piece found =>
      ⟨plain_piece found (by omega), clean_piece whole found⟩
  have ipv6 : WholeLine ((splitn 9 (· == ',') payload)[8]?.getD []) :=
    optional_piece whole_nil fun piece found => whole_last whole found rfl
  refine ⟨_, rfl, ?_, parseState_payload ?_⟩
  · rw [statePayload]
    apply comma_sep (clean_display _)
    apply comma_sep (by rw [spelled.2]; exact clean_piece whole named)
    apply comma_sep (clean_piece whole described)
    apply comma_sep (clean_piece whole here)
    apply comma_sep (clean_piece whole there)
    apply comma_sep (clean_portText _)
    apply comma_sep addr.2
    exact comma_sep (clean_portText _) ipv6
  · exact ⟨spelled.1, by rw [spelled.2]; exact plain_piece named (by omega),
      plain_piece described (by omega), plain_piece here (by omega), plain_piece there (by omega),
      addr.1⟩

theorem bytecount_settles : Settles (lit "BYTECOUNT") parseBytecount := by
  intro payload n _ parsed
  simp only [parseBytecount, Option.bind_eq_bind, Option.bind_eq_some_iff, Option.pure_def,
    Option.some.injEq] at parsed
  obtain ⟨_, _, bytesIn, _, bytesOut, _, rfl⟩ := parsed
  exact ⟨_, rfl, comma_sep (clean_display _) (whole_display _), parseBytecount_payload _ _⟩

theorem bytecountCli_settles : Settles (lit "BYTECOUNT_CLI") parseBytecountCli := by
  intro payload n _ parsed
  simp only [parseBytecountCli, Option.bind_eq_bind, Option.bind_eq_some_iff, Option.pure_def,
    Option.some.injEq] at parsed
  obtain ⟨_, _, cid, _, _, _, bytesIn, _, _, _, bytesOut, _, rfl⟩ := parsed
  exact ⟨_, rfl, comma_sep (clean_display _) (comma_sep (clean_display _) (whole_display _)),
    parseBytecountCli_payload _ _ _⟩

theorem log_settles : Settles (lit "LOG") parseLog := by
  intro payload n whole parsed
  simp only [parseLog, Option.bind_eq_bind, Option.bind_eq_some_iff, Option.pure_def,
    Option.some.injEq] at parsed
  obtain ⟨⟨ts, rest⟩, first, seconds, _, ⟨flag, message⟩, second, rfl⟩ := parsed
  obtain ⟨-, -, later⟩ := splitOnce_parts whole first
  obtain ⟨plain, clean, last⟩ := splitOnce_parts later second
  have spelled := level_named flag
  rw [← spelled.2] at plain clean
  exact ⟨_, rfl, comma_sep (clean_display _) (comma_sep clean last),
    parseLog_payload _ spelled.1 plain _⟩

theorem echo_settles : Settles (lit "ECHO") parseEcho := by
  intro payload n whole parsed
  simp only [parseEcho, Option.bind_eq_bind, Option.bind_eq_some_iff, Option.pure_def,
    Option.some.injEq] at parsed
  obtain ⟨⟨ts, param⟩, first, seconds, _, rfl⟩ := parsed
  exact ⟨_, rfl, comma_sep (clean_display _) (splitOnce_parts whole first).2.2,
    parseEcho_payload _ _⟩

theorem pkcs11idCount_settles : Settles (lit "PKCS11ID-COUNT") parsePkcs11idCount := by
  intro payload n _ parsed
  simp only [parsePkcs11idCount, Option.bind_eq_bind, Option.bind_eq_some_iff, Option.pure_def,
    Option.some.injEq] at parsed
  obtain ⟨count, _, rfl⟩ := parsed
  exact ⟨_, rfl, whole_display _, parsePkcs11idCount_payload _⟩

theorem verbatim_settles {kind : Text} {make : Text → Notification}
    (form : ∀ payload, notificationToWire (make payload) = [noticeLine kind payload]) :
    Settles kind fun payload => some (make payload) := by
  intro payload n whole parsed
  cases parsed
  exact ⟨payload, form payload, whole, rfl⟩

theorem needPrompt_parts {payload name message : Text} (whole : WholeLine payload)
    (parsed : needPrompt payload = some (name, message)) :
    '\'' ∉ name ∧ '\n' ∉ name ∧ WholeLine message := by
  simp only [needPrompt, Option.bind_eq_bind, Option.bind_eq_some_iff, Option.pure_def,
    Option.some.injEq, Prod.mk.injEq] at parsed
  obtain ⟨rest, start, ⟨_, later⟩, quoted, ⟨words, _⟩, marked, rfl, rfl⟩ := parsed
  have inside := whole_suffix whole ⟨_, (stripPrefix_eq_some.mp start).symm⟩
  obtain ⟨plain, clean, last⟩ := splitOnce_parts inside quoted
  have cut : later = words ++ (lit "MSG:" ++ _) := splitOnceText_eq_some marked
  exact ⟨plain, clean, whole_suffix last ⟨words ++ lit "MSG:", by rw [cut, List.append_assoc]⟩⟩

theorem whole_prompt {name message : Text} (words : String) (clean : '\n' ∉ name)
    (whole : WholeLine message) (last : ∃ front s, lit words = front ++ [s] ∧ '\n' ∉ front ∧
      s ≠ '\n' ∧ s ≠ '\r') : WholeLine (lit "Need '" ++ (name ++ (lit words ++ message))) := by
  obtain ⟨front, s, same, plain, other⟩ := last
  have shape : lit "Need '" ++ (name ++ (lit words ++ message)) =
      (lit "Need '" ++ (name ++ front)) ++ s :: message := by
    simp [same]
  rw [shape]
  exact whole_sep (by simp [clean, plain, lit_eq]) other whole

theorem needOk_settles : Settles (lit "NEED-OK") parseNeedOk := by
  intro payload n whole parsed
  simp only [parseNeedOk, Option.bind_eq_bind, Option.bind_eq_some_iff, Option.pure_def,
    Option.some.injEq] at parsed
  obtain ⟨⟨name, message⟩, prompt, rfl⟩ := parsed
  obtain ⟨plain, clean, last⟩ := needPrompt_parts whole prompt
  refine ⟨_, rfl, whole_prompt "' confirmation MSG:" clean last
    ⟨"' confirmation MSG".toList, ':', by simp [lit_eq], by decide, by decide⟩, ?_⟩
  have again := needPrompt_payload plain (lit " confirmation ") "' confirmation MSG:"
    (by simp [lit_eq]) (by simp [lit_eq]) message
  simp [parseNeedOk, again]

theorem needStr_settles : Settles (lit "NEED-STR") parseNeedStr := by
  intro payload n whole parsed
  simp only [parseNeedStr, Option.bind_eq_bind, Option.bind_eq_some_iff, Option.pure_def,
    Option.some.injEq] at parsed
  obtain ⟨⟨name, message⟩, prompt, rfl⟩ := parsed
  obtain ⟨plain, clean, last⟩ := needPrompt_parts whole prompt
  refine ⟨_, rfl, whole_prompt "' input MSG:" clean last
    ⟨"' input MSG".toList, ':', by simp [lit_eq], by decide, by decide⟩, ?_⟩
  have again := needPrompt_payload plain (lit " input ") "' input MSG:"
    (by simp [lit_eq]) (by simp [lit_eq]) message
  simp [parseNeedStr, again]

theorem pkSign_settles : Settles (lit "PK_SIGN") parsePkSign := by
  intro payload n whole parsed
  unfold parsePkSign at parsed
  split at parsed
  · cases parsed
  · rename_i nonempty
    split at parsed
    · rename_i data algorithm split
      cases parsed
      obtain ⟨plain, clean, last⟩ := splitOnce_parts whole split
      exact ⟨_, rfl, comma_sep clean last, parsePkSign_payload data (some algorithm) plain⟩
    · rename_i split
      cases parsed
      have plain := free_iff.mp (splitOnce_eq_none.mp split)
      exact ⟨_, rfl, whole, parsePkSign_payload payload none ⟨plain, nonempty⟩⟩

theorem whole_protocol {name : Text} (whole : WholeLine name) :
    WholeLine (orUnknown .unknown (TransportProtocol.fromStr name)).toText := by
  rcases (protocol_named name).2 with same | known
  · rw [same]
    exact whole
  · have each : ∀ word ∈ [lit "udp", lit "tcp"], WholeLine word := by decide +kernel
    exact each _ known

theorem remote_settles : Settles (lit "REMOTE") parseRemote := by
  intro payload n whole parsed
  simp only [parseRemote, Option.bind_eq_bind, Option.bind_eq_some_iff, Option.pure_def,
    Option.some.injEq] at parsed
  obtain ⟨host, first, _, _, port, _, name, third, rfl⟩ := parsed
  refine ⟨_, rfl, ?_, parseRemote_payload (plain_piece first (by omega)) _ (protocol_named name).1⟩
  exact comma_sep (clean_piece whole first) (comma_sep (clean_display _)
    (whole_protocol (whole_last whole third rfl)))

theorem proxy_settles : Settles (lit "PROXY") parseProxy := by
  intro payload n whole parsed
  simp only [parseProxy, Option.bind_eq_bind, Option.bind_eq_some_iff, Option.pure_def,
    Option.some.injEq] at parsed
  obtain ⟨_, _, index, _, name, second, host, third, rfl⟩ := parsed
  have plain : ',' ∉ (orUnknown .unknown (TransportProtocol.fromStr name)).toText ∧
      '\n' ∉ (orUnknown .unknown (TransportProtocol.fromStr name)).toText := by
    rcases (protocol_named name).2 with same | known
    · rw [same]
      exact ⟨plain_piece second (by omega), clean_piece whole second⟩
    · have each : ∀ word ∈ [lit "udp", lit "tcp"], ',' ∉ word ∧ '\n' ∉ word := by decide +kernel
      exact each _ known
  refine ⟨_, rfl, ?_, parseProxy_payload _ (protocol_named name).1 plain.1 _⟩
  exact comma_sep (clean_display _) (comma_sep plain.2 (whole_last whole third rfl))

/-! The PASSWORD family -/

theorem whole_tail {front : Text} (word : String) (clean : '\n' ∉ front)
    (whole : WholeLine (lit word)) (nonempty : lit word ≠ []) : WholeLine (front ++ lit word) :=
  whole_append clean whole nonempty

theorem verificationFailed_settles {rest : Text} {sub : PasswordNotification}
    (whole : WholeLine rest) (parsed : parseVerificationFailed rest = some sub) :
    PlainPassword sub ∧ WholeLine (passwordPayload sub) := by
  unfold parseVerificationFailed at parsed
  split at parsed
  · rename_i before crv1 found
    have tail : WholeLine crv1 :=
      whole_suffix whole ⟨before ++ lit "' ['CRV1:", by
        rw [splitOnceText_eq_some found, List.append_assoc]⟩
    simp only [Option.bind_eq_bind, Option.bind_eq_some_iff, Option.pure_def,
      Option.some.injEq] at parsed
    obtain ⟨body, closed, flags, first, stateId, second, user, third, challenge, fourth, rfl⟩ :=
      parsed
    have inside : '\n' ∉ body := by
      obtain ⟨ending, same, -⟩ := List.dropSuffix?_eq_some_iff.mp closed
      exact clean_inside tail.1 (List.IsPrefix.isInfix ⟨ending, same.symm⟩)
    have clean : ∀ i piece, (splitn 4 (· == ':') body)[i]? = some piece → '\n' ∉ piece :=
      fun i piece found => clean_inside inside (splitn_piece found).1
    refine ⟨⟨plain_piece first (by omega), plain_piece second (by omega),
      plain_piece third (by omega)⟩, ?_⟩
    have shape : passwordPayload (.dynamicChallenge flags stateId user challenge) =
        (lit "Verification Failed: 'Auth' ['CRV1:" ++ (flags ++ ':' :: (stateId ++ ':' ::
          (user ++ ':' :: challenge)))) ++ lit "']" := by
      simp [passwordPayload]
    rw [shape]
    apply whole_tail "']" _ (by decide +kernel) (by simp [lit_eq])
    have prefixClean : '\n' ∉ lit "Verification Failed: 'Auth' ['CRV1:" := by decide +kernel
    simp [prefixClean, clean _ _ first, clean _ _ second, clean _ _ third, clean _ _ fourth]
  · rename_i absent
    simp only [Option.bind_eq_bind, Option.bind_eq_some_iff, Option.pure_def,
      Option.some.injEq] at parsed
    obtain ⟨name, closed, rfl⟩ := parsed
    obtain ⟨ending, same, -⟩ := List.dropSuffix?_eq_some_iff.mp closed
    have spelled := authType_named name
    refine ⟨⟨spelled.1, ?_⟩, ?_⟩
    · rw [spelled.2]
      intro inside
      apply splitOnceText_absent (by simp [lit_eq]) absent
      rw [same]
      exact inside.trans (List.prefix_append name ending).isInfix
    · have clean : '\n' ∉ name :=
        clean_inside whole.1 (List.IsPrefix.isInfix ⟨ending, same.symm⟩)
      have prefixClean : '\n' ∉ lit "Verification Failed: '" := by decide +kernel
      rw [passwordPayload, spelled.2, ← List.append_assoc]
      exact whole_tail "'" (by simp [prefixClean, clean]) (by decide +kernel) (by simp [lit_eq])

theorem needCredential_settles {authType rest : Text} {sub : PasswordNotification}
    (plain : '\'' ∉ authType) (clean : '\n' ∉ authType) (whole : WholeLine rest)
    (parsed : parseNeedCredential authType rest = some sub) :
    PlainPassword sub ∧ WholeLine (passwordPayload sub) := by
  have spelled := authType_named authType
  have need : '\n' ∉ lit "Need '" := by decide +kernel
  unfold parseNeedCredential at parsed
  split at parsed
  · rename_i afterUp found
    have later : WholeLine (trimStart afterUp) :=
      whole_suffix (whole_suffix whole ⟨_, (stripPrefix_eq_some.mp found).symm⟩)
        (trimStart_suffix afterUp)
    split at parsed
    · rename_i sc marked
      have tail := whole_suffix later ⟨_, (stripPrefix_eq_some.mp marked).symm⟩
      simp only [Option.bind_eq_bind, Option.bind_eq_some_iff, Option.pure_def,
        Option.some.injEq] at parsed
      obtain ⟨⟨flag, challenge⟩, split, _, _, rfl⟩ := parsed
      refine ⟨trivial, ?_⟩
      have asked : '\n' ∉ lit "Need 'Auth' username/password SC:" := by decide +kernel
      rw [passwordPayload, ← List.append_assoc]
      apply comma_sep _ (splitOnce_parts tail split).2.2
      simp [asked, clean_display]
    · cases parsed
      refine ⟨⟨spelled.1, by rw [spelled.2]; exact plain⟩, ?_⟩
      rw [passwordPayload, spelled.2, ← List.append_assoc]
      exact whole_tail "' username/password" (by simp [need, clean]) (by decide +kernel)
        (by simp [lit_eq])
  · split at parsed
    · cases parsed
      refine ⟨⟨spelled.1, by rw [spelled.2]; exact plain⟩, ?_⟩
      rw [passwordPayload, spelled.2, ← List.append_assoc]
      exact whole_tail "' password" (by simp [need, clean]) (by decide +kernel) (by simp [lit_eq])
    · cases parsed

theorem password_settles : Settles (lit "PASSWORD") parsePassword := by
  intro payload n whole parsed
  have settled : ∃ sub, n = .password sub ∧ PlainPassword sub ∧
      WholeLine (passwordPayload sub) := by
    unfold parsePassword at parsed
    split at parsed
    · rename_i token found
      cases parsed
      refine ⟨_, rfl, trivial, ?_⟩
      rw [passwordPayload, ← stripPrefix_eq_some.mp found]
      exact whole
    · split at parsed
      · rename_i rest found
        obtain ⟨sub, failed, rfl⟩ := Option.map_eq_some_iff.mp parsed
        have tail := whole_suffix whole ⟨_, (stripPrefix_eq_some.mp found).symm⟩
        exact ⟨sub, rfl, verificationFailed_settles tail failed⟩
      · simp only [Option.bind_eq_bind, Option.bind_eq_some_iff, Option.pure_def,
          Option.some.injEq] at parsed
        obtain ⟨rest, found, ⟨authType, later⟩, quoted, sub, need, rfl⟩ := parsed
        have tail := whole_suffix whole ⟨_, (stripPrefix_eq_some.mp found).symm⟩
        obtain ⟨plain, clean, last⟩ := splitOnce_parts tail quoted
        exact ⟨sub, rfl, needCredential_settles plain clean
          (whole_suffix last (trimStart_suffix later)) need⟩
  obtain ⟨sub, rfl, plain, again⟩ := settled
  exact ⟨_, rfl, again, parsePassword_payload sub plain⟩

/-! Every kind with a parser -/

theorem settles_none (kind : Text) : Settles kind fun _ => none := by
  intro payload n _ parsed
  cases parsed

theorem settles_ite {kind word : Text} {parse other : Text → Option Notification}
    (yes : Settles word parse) (no : Settles kind other) :
    Settles kind fun payload => if kind = word then parse payload else other payload := by
  by_cases same : kind = word
  · subst same
    simpa using yes
  · simpa [same] using no

theorem typed_settles (kind : Text) : Settles kind (parseTyped kind) := by
  unfold parseTyped
  apply settles_ite state_settles
  apply settles_ite bytecount_settles
  apply settles_ite bytecountCli_settles
  apply settles_ite log_settles
  apply settles_ite echo_settles
  apply settles_ite (verbatim_settles fun _ => rfl)
  apply settles_ite (verbatim_settles fun _ => rfl)
  apply settles_ite pkcs11idCount_settles
  apply settles_ite needOk_settles
  apply settles_ite needStr_settles
  apply settles_ite (verbatim_settles fun _ => rfl)
  apply settles_ite pkSign_settles
  apply settles_ite (verbatim_settles fun _ => rfl)
  apply settles_ite (verbatim_settles fun _ => rfl)
  apply settles_ite remote_settles
  apply settles_ite proxy_settles
  apply settles_ite password_settles
  exact settles_none kind

end MgmtNormalForms
