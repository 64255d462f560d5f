import OpenvpnMgmt.ParsedFields

/-!
What a user types is what is sent. The parser resolves quotes and escapes in every token it
reads; the encoder writes most of these tokens back in quotes, but three of them as they are.
-/
namespace MgmtTypedLines
open TextOps Utf8Text Base64Text MgmtEncoder MgmtValues MgmtCommand MgmtCodec MgmtWire
  MgmtEncodeSafety MgmtCommandRoundTrip MgmtTokens MgmtParsedFields

/-! A token that is written without quotes -/

theorem nextToken_trimStart (input : Text) : nextToken (trimStart input) = nextToken input := by
  rw [nextToken, nextToken, trimStart_of_head (trimStart_head input)]

theorem nextToken_nil : nextToken [] = none := rfl

/-- The quote that opens the next argument closes a token left open before it. -/
theorem quotedToken_stops {front back token after : Text}
    (found : quotedToken (front ++ ' ' :: '"' :: back) = some (token, after)) :
    token.length + token.count '"' ≤ front.length + 1 := by
  induction front using quotedToken.induct generalizing token with
  | case1 =>
    cases found
    decide
  | case2 rest =>
    cases found
    simp
  | case3 =>
    cases found
    decide
  | case4 escaped rest ih =>
    simp only [List.cons_append, quotedToken, Option.map_eq_some_iff, Prod.mk.injEq] at found
    obtain ⟨⟨token, _⟩, inner, rfl, rfl⟩ := found
    have shorter := ih inner
    rw [List.count_cons]
    simp only [List.length_cons]
    split <;> omega
  | case5 plain rest notQuote notLast notEscape ih =>
    have other : plain ≠ '"' := by simpa using notQuote
    have unescaped : plain ≠ '\\' := by
      rintro rfl
      cases rest with
      | nil => exact notLast rfl rfl
      | cons e more => exact notEscape e more rfl rfl
    rw [List.cons_append, quotedToken] at found
    · simp only [Option.map_eq_some_iff, Prod.mk.injEq] at found
      obtain ⟨⟨token, _⟩, inner, rfl, rfl⟩ := found
      have shorter := ih inner
      rw [List.count_cons_of_ne other]
      simp only [List.length_cons]
      omega
    · exact other
    · exact fun same => absurd same unescaped
    · exact fun _ _ same => absurd same unescaped

theorem bare_before_quoted {name value rest : Text}
    (found : nextToken (name ++ ' ' :: quote (escape value)) = some (name, rest))
    (behind : nextToken rest ≠ none) : IsToken name := by
  rcases blank_or_visible name with all | ⟨blanks, c, more, shape, before, visible⟩
  · -- The value is read in place of the name, and nothing is left for the value.
    rw [← nextToken_trimStart, trimStart_blanks all, trimStart_space (quote_solid _),
      nextToken_quoted_last, Option.some.injEq, Prod.mk.injEq] at found
    rw [← found.2] at behind
    exact absurd nextToken_nil behind
  · have head : trimStart (name ++ ' ' :: quote (escape value)) =
        c :: (more ++ ' ' :: '"' :: (escape value ++ ['"'])) := by
      rw [shape, List.append_assoc, trimStart_blanks before, List.cons_append,
        trimStart_cons visible, quote, List.cons_append]
    obtain ⟨taken, after, start, -, ⟨-, token⟩ | ⟨body, rfl, -⟩⟩ := nextToken_eq_some found
    · exact token
    · rw [head, List.cons_append, List.cons.injEq] at start
      obtain ⟨rfl, -⟩ := start
      rw [nextToken, head] at found
      obtain ⟨⟨token, _⟩, inner, same⟩ := Option.map_eq_some_iff.mp found
      have bound := quotedToken_stops inner
      rw [show token = name from congrArg Prod.fst same, shape] at bound
      simp only [List.length_append, List.length_cons, List.count_append,
        List.count_cons_self] at bound
      omega

theorem bare_before_word {name word rest : Text} (plain : '"' ∉ word)
    (found : nextToken (name ++ ' ' :: word) = some (name, rest)) : IsToken name := by
  obtain ⟨taken, after, start, -, ⟨-, token⟩ | ⟨body, rfl, -, bound⟩⟩ := nextToken_eq_some found
  · exact token
  · exfalso
    have whole := trimStart_suffix (name ++ ' ' :: word)
    rw [start] at whole
    -- The closing quote is one of the name's.
    have closing : '"' :: after <:+ name ++ ' ' :: word :=
      List.IsSuffix.trans ⟨'"' :: body, by simp⟩ whole
    have inside : ¬ ('"' :: after).length ≤ (' ' :: word).length := by
      intro short
      have tail := List.suffix_of_suffix_length_le closing (List.suffix_append _ _) short
      have member : '"' ∈ ' ' :: word := tail.subset (by simp)
      simp [plain] at member
    have length := whole.length_le
    simp only [List.length_append, List.length_cons, List.length_nil] at length inside
    omega

theorem bare_alone {name rest : Text} (found : nextToken (trim name) = some (name, rest)) :
    IsToken name := by
  obtain ⟨taken, after, start, -, ⟨-, token⟩ | ⟨body, rfl, -, bound⟩⟩ := nextToken_eq_some found
  · exact token
  · have first := (trimStart_suffix (trim name)).length_le
    have second := (trim_inside name).length_le
    rw [start] at first
    simp only [List.length_append, List.length_cons] at first
    omega

/-! The line that is sent -/

/- Raw commands stand for a line of their own, and `client-auth` becomes a block. -/
def Structured : OvpnCommand → Prop
  | .raw _ | .rawMultiLine _ | .clientAuth _ _ _ => False
  | _ => True

def arguments : OvpnCommand → List Text
  | .username authType value | .password authType value => [authType.toText, value.expose]
  | .needStr name value => [name, value]
  | .clientDeny deny => deny.reason :: deny.clientReason.toList
  | .pushUpdateBroad options | .pushUpdateCid _ options => [options]
  | .clientPendingAuth _ _ extra _ => [extra]
  | .crResponse response => [response.expose]
  | _ => []

/- The command is one line that parses to the command again, and every argument is one token of
   that line. -/
def SentAsTyped (engine : Bytes → Text) (codec : OvpnCodec) (c : OvpnCommand) : Prop :=
  ∃ wire, Sends engine codec c wire ∧ OvpnCommand.fromStr wire = .ok c ∧
    ∀ s ∈ arguments c, s ∈ tokens wire

section Sending
variable (engine : Bytes → Text) (mode : EncoderMode)

/-- Only a static challenge is encoded by the engine, and no line parses to one. -/
theorem wire_engine {c : OvpnCommand} (shaped : FieldShape c) (other : Bytes → Text) :
    commandWire engine mode c = commandWire other mode c := by
  cases c with
  | staticChallengeResponse => exact shaped.elim
  | status format => cases format <;> rfl
  | verb level => cases level <;> rfl
  | mute threshold => cases threshold <;> rfl
  | _ => rfl

theorem sends_of_shape {codec : OvpnCodec} {c : OvpnCommand} {line : Text} (shaped : FieldShape c)
    (form : commandWire engine codec.encoderMode c = .ok (.line line)) :
    Sends engine codec c line := by
  have protocol : WireClean (ungated c) := by
    unfold ungated
    split
    · exact shaped.2.2.2.2
    · exact wireClean_nil
  have clean := wire_clean encode_isBase64 codec.encoderMode c protocol
  rw [wire_engine Base64Text.encode _ shaped engine] at clean
  exact sends_of_line (clean _ form) form

theorem sends_unique {codec : OvpnCodec} {c : OvpnCommand} {a b : Text}
    (first : Sends engine codec c a) (second : Sends engine codec c b) : a = b := by
  have same := (first.appended []).symm.trans (second.appended [])
  simpa [lineBytes_inj] using same

theorem fits_reads {c : OvpnCommand} (structured : Structured c) (shaped : FieldShape c)
    (clean : ∀ s ∈ gatedFields c, WireClean s) (bare : ∀ field ∈ unquotedField c, IsToken field) :
    Reads c (commandWire engine mode c) := by
  cases c with
  | raw => exact structured.elim
  | rawMultiLine => exact structured.elim
  | clientAuth => exact structured.elim
  | kill target =>
    cases target with
    | commonName name =>
      exact killName_reads engine mode shaped.1 shaped.2 (clean name (by simp [gatedFields]))
    | address protocol ip port =>
      obtain ⟨named, plainProtocol, plainIp, solid, -⟩ := shaped
      exact killAddress_reads engine mode named plainProtocol plainIp solid
        (clean ip (by simp [gatedFields]))
  | needOk name response =>
    exact needOk_reads engine mode shaped response (clean name (by simp [gatedFields]))
  | needStr name value => exact command_reads engine mode _ (bare name rfl) clean
  | clientPendingAuth cid kid extra timeout =>
    exact command_reads engine mode _ (bare extra rfl) clean
  | crResponse response => exact command_reads engine mode _ (bare response.expose rfl) clean
  | clientKill cid message => cases message <;> exact command_reads engine mode _ shaped clean
  | remote action => cases action <;> exact command_reads engine mode _ shaped clean
  | proxy action => cases action <;> exact command_reads engine mode _ shaped clean
  | _ => exact command_reads engine mode _ shaped clean

theorem line_tokens {line args : Text} {fields : List Text} {x : Encoded Wire} (word : String)
    (form : x = .ok (.line (lit word ++ ' ' :: args))) (known : word ∈ fixedWords)
    (solid : Solid args) (kept : ∀ s ∈ fields, s ∈ tokens args) (sent : x = .ok (.line line)) :
    ∀ s ∈ fields, s ∈ tokens line := by
  rw [form, Except.ok.injEq, Wire.line.injEq] at sent
  subst sent
  intro s member
  rw [tokens_word (fixedWords_isToken word known) solid]
  exact List.mem_cons_of_mem _ (kept s member)

theorem credential_tokens {authType : AuthType} {value : Redacted} {line : Text}
    {keyword authField valueField : String} (known : keyword ∈ fixedWords)
    (authClean : WireClean authType.toText) (valueClean : WireClean value.expose)
    (sent : credentialWire keyword authField valueField mode authType value = .ok (.line line)) :
    ∀ s ∈ [authType.toText, value.expose], s ∈ tokens line := by
  refine line_tokens keyword (credential_line mode _ _ _ authClean valueClean) known
    ((quote_solid _).spaced (quote_solid _)) ?_ sent
  simp [tokens_quoted _ (quote_solid _), tokens_quoted_last]

theorem arguments_kept {c : OvpnCommand} {line : Text}
    (clean : ∀ s ∈ gatedFields c, WireClean s) (bare : ∀ field ∈ unquotedField c, IsToken field)
    (sent : commandWire engine mode c = .ok (.line line)) :
    ∀ s ∈ arguments c, s ∈ tokens line := by
  cases c with
  | username authType value =>
    exact credential_tokens mode (by decide) (clean _ (by simp [gatedFields]))
      (clean _ (by simp [gatedFields])) sent
  | password authType value =>
    exact credential_tokens mode (by decide) (clean _ (by simp [gatedFields]))
      (clean _ (by simp [gatedFields])) sent
  | needStr name value =>
    have token : IsToken name := bare name rfl
    refine line_tokens "needstr" (needStr_line engine mode (clean _ (by simp [gatedFields]))
      (clean _ (by simp [gatedFields]))) (by decide) (token.1.solid.spaced (quote_solid _)) ?_ sent
    simp [arguments, tokens_word token (quote_solid _), tokens_quoted_last]
  | clientDeny deny =>
    obtain ⟨cid, kid, reason, clientReason⟩ := deny
    have reasonClean : WireClean reason := clean reason (by simp [gatedFields])
    cases clientReason with
    | none =>
      have fromKid := (display_solid kid).spaced (quote_solid (escape reason))
      refine line_tokens "client-deny" (clientDeny_line engine mode reasonClean) (by decide)
        ((display_solid cid).spaced fromKid) ?_ sent
      simp [arguments, tokens_word (display_isToken cid) fromKid,
        tokens_word (display_isToken kid) (quote_solid _), tokens_quoted_last]
    | some clientReason =>
      have fromReason := (quote_solid (escape reason)).spaced (quote_solid (escape clientReason))
      have fromKid := (display_solid kid).spaced fromReason
      refine line_tokens "client-deny"
        (clientDeny_line_client engine mode reasonClean (clean _ (by simp [gatedFields])))
        (by decide) ((display_solid cid).spaced fromKid) ?_ sent
      simp [arguments, tokens_word (display_isToken cid) fromKid,
        tokens_word (display_isToken kid) fromReason, tokens_quoted _ (quote_solid _),
        tokens_quoted_last]
  | pushUpdateBroad options =>
    refine line_tokens "push-update-broad"
      (pushUpdateBroad_line engine mode (clean _ (by simp [gatedFields]))) (by decide)
      (quote_solid _) ?_ sent
    simp [arguments, tokens_quoted_last]
  | pushUpdateCid cid options =>
    refine line_tokens "push-update-cid"
      (pushUpdateCid_line engine mode (clean _ (by simp [gatedFields]))) (by decide)
      ((display_solid cid).spaced (quote_solid _)) ?_ sent
    simp [arguments, tokens_word (display_isToken cid) (quote_solid _), tokens_quoted_last]
  | clientPendingAuth cid kid extra timeout =>
    have token : IsToken extra := bare extra rfl
    have fromExtra := token.1.solid.spaced (display_solid timeout)
    have fromKid := (display_solid kid).spaced fromExtra
    refine line_tokens "client-pending-auth"
      (clientPendingAuth_line engine mode (clean _ (by simp [gatedFields]))) (by decide)
      ((display_solid cid).spaced fromKid) ?_ sent
    simp [arguments, tokens_word (display_isToken _) fromKid,
      tokens_word (display_isToken _) fromExtra, tokens_word token (display_solid timeout)]
  | crResponse response =>
    have token : IsToken response.expose := bare response.expose rfl
    refine line_tokens "cr-response" (crResponse_line engine mode (clean _ (by simp [gatedFields])))
      (by decide) token.1.solid ?_ sent
    simp [arguments, tokens_last token]
  | _ => simp [arguments]

/-! The way back -/

theorem needStr_bare {name value : Text}
    (parsed : OvpnCommand.fromStr (lit "needstr" ++ ' ' :: (name ++ ' ' :: quote (escape value))) =
      .ok (.needStr name value)) : IsToken name := by
  obtain ⟨line, split⟩ := fromStr_spaced (fixedWords_isWord "needstr" (by decide))
    (name ++ ' ' :: quote (escape value))
  have ending : ∀ c ∈ (name ++ ' ' :: quote (escape value)).getLast?, isWhitespace c = false := by
    intro c member
    refine (quote_solid (escape value)).2.2 c ?_
    rwa [← List.singleton_append, ← List.append_assoc,
      List.getLast?_append_of_ne_nil _ (quote_solid _).1] at member
  rw [split, trim_of_last ending] at parsed
  obtain ⟨_, rest, _, after, first, second, same⟩ :=
    parseNeedStr_eq_ok (by simpa [parseCommand] using parsed)
  cases same
  rw [nextToken_trimStart] at first
  exact bare_before_quoted first (by simp [second])

theorem clientPendingAuth_bare {cid kid : U64} {extra : Text} {timeout : U32}
    (parsed : OvpnCommand.fromStr (lit "client-pending-auth" ++ ' ' ::
        (display cid ++ ' ' :: (display kid ++ ' ' :: (extra ++ ' ' :: display timeout)))) =
      .ok (.clientPendingAuth cid kid extra timeout)) : IsToken extra := by
  have fromKid : Solid (display kid ++ ' ' :: (extra ++ ' ' :: display timeout)) := by
    have ends := (display_solid kid).append (display_solid timeout) (' ' :: extra ++ [' '])
    simpa using ends
  rw [fromStr_args (fixedWords_isWord "client-pending-auth" (by decide))
    ((display_solid cid).spaced fromKid)] at parsed
  obtain ⟨_, _, _, _, _, rest, _, _, _, first, second, third, same⟩ :=
    parseClientPendingAuth_eq_ok (by simpa [parseCommand] using parsed)
  cases same
  rw [nextToken_word (display_isToken cid) fromKid] at first
  cases first
  rw [nextToken_spaced (display_isToken kid)] at second
  cases second
  rw [nextToken_trimStart] at third
  exact bare_before_word (not_mem_display timeout (by decide)) third

theorem crResponse_bare {response : Redacted}
    (parsed : OvpnCommand.fromStr (lit "cr-response" ++ ' ' :: response.expose) =
      .ok (.crResponse response)) : IsToken response.expose := by
  obtain ⟨line, split⟩ := fromStr_spaced (fixedWords_isWord "cr-response" (by decide))
    response.expose
  rw [split] at parsed
  obtain ⟨_, rest, found, same⟩ := parseCrResponse_eq_ok (by simpa [parseCommand] using parsed)
  cases same
  exact bare_alone found

theorem sent_bare {codec : OvpnCodec} {c : OvpnCommand}
    (clean : ∀ s ∈ gatedFields c, WireClean s) (shaped : FieldShape c)
    (sent : SentAsTyped engine codec c) : ∀ field ∈ unquotedField c, IsToken field := by
  obtain ⟨wire, sends, parsed, -⟩ := sent
  have written {line : Text} (form : commandWire engine codec.encoderMode c = .ok (.line line)) :
      OvpnCommand.fromStr line = .ok c := by
    rwa [← sends_unique engine sends (sends_of_shape engine shaped form)]
  cases c with
  | needStr name value =>
    rintro _ ⟨⟩
    exact needStr_bare (written (needStr_line engine codec.encoderMode
      (clean _ (by simp [gatedFields])) (clean _ (by simp [gatedFields]))))
  | clientPendingAuth cid kid extra timeout =>
    rintro _ ⟨⟩
    exact clientPendingAuth_bare (written (clientPendingAuth_line engine codec.encoderMode
      (clean _ (by simp [gatedFields]))))
  | crResponse response =>
    rintro _ ⟨⟩
    exact crResponse_bare (written (crResponse_line engine codec.encoderMode
      (clean _ (by simp [gatedFields]))))
  | _ => rintro _ ⟨⟩

/-- A typed line is sent as it was meant exactly when the token that will not be quoted needs no
    quotes. -/
theorem sent_as_typed_iff (codec : OvpnCodec) {line : Text} (clean : WireClean line)
    {c : OvpnCommand} (parsed : OvpnCommand.fromStr line = .ok c) (structured : Structured c) :
    SentAsTyped engine codec c ↔ ∀ field ∈ typedField line, IsToken field := by
  obtain ⟨fields, shaped, token⟩ := fromStr_fits clean c parsed
  rw [← token]
  constructor
  · exact sent_bare engine fields shaped
  · intro bare
    obtain ⟨wire, form, back⟩ := fits_reads engine codec.encoderMode structured shaped fields bare
    exact ⟨wire, sends_of_shape engine shaped form, back,
      arguments_kept engine codec.encoderMode fields bare form⟩

end Sending

theorem sent_as_typed_password :
    SentAsTyped Base64Text.encode OvpnCodec.new (.password .privateKey ⟨lit "a \"b\\ "⟩) := by
  have quoted : typedField (lit "password \"Private Key\" \"a \\\"b\\\\ \"") = none := by
    decide +kernel
  have parsed : OvpnCommand.fromStr (lit "password \"Private Key\" \"a \\\"b\\\\ \"") =
      .ok (.password .privateKey ⟨lit "a \"b\\ "⟩) := by
    decide +kernel
  refine (sent_as_typed_iff Base64Text.encode OvpnCodec.new (by decide +kernel) parsed
    (by trivial)).mpr ?_
  simp [quoted]

/-- A quoted name with a space becomes a name and a value. -/
theorem needStr_resplit :
    OvpnCommand.fromStr (lit "needstr \"a b\" c") = .ok (.needStr (lit "a b") (lit "c")) ∧
      (OvpnCodec.new.encode Base64Text.encode (.needStr (lit "a b") (lit "c")) []).2 =
        (lineBytes (lit "needstr a b \"c\""), .ok ()) ∧
      OvpnCommand.fromStr (lit "needstr a b \"c\"") = .ok (.needStr (lit "a") (lit "b")) ∧
      ¬ SentAsTyped Base64Text.encode OvpnCodec.new (.needStr (lit "a b") (lit "c")) := by
  refine ⟨by decide +kernel, by decide +kernel, by decide +kernel, fun sent => ?_⟩
  have bare := sent_bare Base64Text.encode (by decide +kernel) (by trivial) sent (lit "a b") rfl
  exact absurd bare (by decide +kernel)

end MgmtTypedLines
