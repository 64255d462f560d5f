import OpenvpnMgmt.CommandRoundTrip

/-!
The tokens of a command line: what one call of the lexer takes, the line read to its end, and
the line that a command is sent as.
-/
namespace MgmtTokens
open TextOps Utf8Text Base64Text MgmtEncoder MgmtCommand MgmtCodec MgmtWire MgmtEncodeSafety
  MgmtCommandRoundTrip

/-! One token -/

/-- The body of a quoted token. Every quote of the token was escaped in the body, so the token is
    shorter than the body by at least the number of its quotes. -/
theorem quotedToken_eq_some {input token after : Text}
    (found : quotedToken input = some (token, after)) :
    ∃ body, input = body ++ '"' :: after ∧ token ⊆ body ∧
      token.length + token.count '"' ≤ body.length := by
  induction input using quotedToken.induct generalizing token with
  | case1 => simp [quotedToken] at found
  | case2 rest =>
    simp only [quotedToken, Option.some.injEq, Prod.mk.injEq] at found
    obtain ⟨rfl, rfl⟩ := found
    exact ⟨[], by simp⟩
  | case3 => simp [quotedToken] at found
  | case4 escaped rest ih =>
    simp only [quotedToken, Option.map_eq_some_iff, Prod.mk.injEq] at found
    obtain ⟨⟨front, _⟩, inner, rfl, rfl⟩ := found
    obtain ⟨body, rfl, inside, shorter⟩ := ih inner
    refine ⟨'\\' :: escaped :: body, rfl, ?_, ?_⟩
    · exact List.cons_subset.mpr ⟨by simp, fun c member => by simp [inside member]⟩
    · rw [List.count_cons]
      simp only [List.length_cons]
      split <;> omega
  | case5 plain rest notQuote notLast notEscape ih =>
    have other : plain ≠ '"' := by simpa using notQuote
    rw [quotedToken] at found
    · simp only [Option.map_eq_some_iff, Prod.mk.injEq] at found
      obtain ⟨⟨front, _⟩, inner, rfl, rfl⟩ := found
      obtain ⟨body, rfl, inside, shorter⟩ := ih inner
      refine ⟨plain :: body, rfl, List.cons_subset_cons plain inside, ?_⟩
      rw [List.count_cons_of_ne other]
      simp only [List.length_cons]
      omega
    all_goals assumption

/-- A token is a bare word, or the resolved text between two quotes. -/
theorem nextToken_eq_some {input token rest : Text} (found : nextToken input = some (token, rest)) :
    ∃ taken after, trimStart input = taken ++ after ∧ rest = trimStart after ∧
      (taken = token ∧ IsToken token ∨
        ∃ body, taken = '"' :: (body ++ ['"']) ∧ token ⊆ body ∧
          token.length + token.count '"' ≤ body.length) := by
  rw [nextToken] at found
  split at found
  · cases found
  · rename_i quoted shape
    obtain ⟨⟨_, after⟩, inner, pair⟩ := Option.map_eq_some_iff.mp found
    obtain ⟨rfl, rfl⟩ := Prod.mk.inj pair
    obtain ⟨body, rfl, inside, shorter⟩ := quotedToken_eq_some inner
    exact ⟨'"' :: (body ++ ['"']), after, by simp [shape], rfl, Or.inr ⟨body, rfl, inside, shorter⟩⟩
  · rename_i c more unquoted shape
    have visible : isWhitespace c = false := trimStart_head input c (by simp [shape])
    have plain : (c :: more).head? ≠ some '"' := by simpa using unquoted
    split at found
    · rename_i front back pieces
      cases found
      obtain ⟨blank, space, whole, clean⟩ := splitOnce_eq_some pieces
      have nonempty : token ≠ [] := by
        rintro rfl
        rw [List.nil_append, List.cons.injEq] at whole
        exact absurd space (by simp [← whole.1, visible])
      refine ⟨token, blank :: back, shape.trans whole, ?_, Or.inl ⟨rfl, ⟨nonempty, clean⟩, ?_⟩⟩
      · exact (List.dropWhile_cons_of_pos space).symm
      · cases token with
        | nil => exact absurd rfl nonempty
        | cons d front => rwa [whole] at plain
    · rename_i whole
      cases found
      exact ⟨c :: more, [], by simp [shape], rfl,
        Or.inl ⟨rfl, ⟨by simp, splitOnce_eq_none.mp whole⟩, plain⟩⟩

theorem nextToken_subset {input token rest : Text} (found : nextToken input = some (token, rest)) :
    token ⊆ input ∧ rest ⊆ input := by
  obtain ⟨taken, after, shape, rfl, kind⟩ := nextToken_eq_some found
  have whole := (trimStart_suffix input).subset
  rw [shape, List.append_subset] at whole
  refine ⟨?_, List.Subset.trans (trimStart_suffix after).subset whole.2⟩
  rcases kind with ⟨rfl, -⟩ | ⟨body, rfl, inside, -⟩
  · exact whole.1
  · exact fun c member => whole.1 (by simp [inside member])

theorem nextToken_shorter {input token rest : Text} (found : nextToken input = some (token, rest)) :
    rest.length < input.length := by
  obtain ⟨taken, after, shape, rfl, kind⟩ := nextToken_eq_some found
  have whole := (trimStart_suffix input).length_le
  have tail := (trimStart_suffix after).length_le
  rw [shape, List.length_append] at whole
  have positive : 0 < taken.length := by
    rcases kind with ⟨rfl, token, -⟩ | ⟨body, rfl, -⟩
    · exact List.length_pos_of_ne_nil token.1
    · simp
  omega

/-! All tokens -/

def tokensFuel : Nat → Text → List Text
  | 0, _ => []
  | fuel + 1, line =>
    match nextToken line with
    | none => []
    | some (token, rest) => token :: tokensFuel fuel rest

/- What the lexer makes of a line. Every token takes a character at least, so the length is fuel
   enough. -/
def tokens (line : Text) : List Text := tokensFuel (line.length + 1) line

theorem tokensFuel_succ (fuel : Nat) (line : Text) :
    tokensFuel (fuel + 1) line = match nextToken line with
      | none => []
      | some (token, rest) => token :: tokensFuel fuel rest := rfl

theorem tokensFuel_agree {m n : Nat} {line : Text} (enough : line.length < m)
    (also : line.length < n) : tokensFuel m line = tokensFuel n line := by
  induction m generalizing n line with
  | zero => omega
  | succ m ih =>
    obtain ⟨n, rfl⟩ : ∃ k, n = k + 1 := ⟨n - 1, by omega⟩
    rw [tokensFuel_succ, tokensFuel_succ]
    cases found : nextToken line with
    | none => rfl
    | some pair =>
      obtain ⟨token, rest⟩ := pair
      have shorter := nextToken_shorter found
      have tail : tokensFuel m rest = tokensFuel n rest := ih (by omega) (by omega)
      simp only [tail]

theorem tokens_cons {line token rest : Text} (found : nextToken line = some (token, rest)) :
    tokens line = token :: tokens rest := by
  have shorter := nextToken_shorter found
  rw [tokens, tokensFuel_succ, found]
  simp only [tokens, tokensFuel_agree (m := line.length) (n := rest.length + 1) shorter (by omega)]

@[simp] theorem tokens_nil : tokens [] = [] := rfl

theorem tokens_word {t rest : Text} (token : IsToken t) (solid : Solid rest) :
    tokens (t ++ ' ' :: rest) = t :: tokens rest := tokens_cons (nextToken_word token solid)

theorem tokens_last {t : Text} (token : IsToken t) : tokens t = [t] := by
  rw [tokens_cons (nextToken_last token), tokens_nil]

theorem tokens_quoted {rest : Text} (s : Text) (solid : Solid rest) :
    tokens (quote (escape s) ++ ' ' :: rest) = s :: tokens rest :=
  tokens_cons (nextToken_quoted_spaced s solid)

theorem tokens_quoted_last (s : Text) : tokens (quote (escape s)) = [s] := by
  rw [tokens_cons (nextToken_quoted_last s), tokens_nil]

theorem tokens_trimStart (line : Text) : tokens (trimStart line) = tokens line := by
  have same : nextToken (trimStart line) = nextToken line := by
    rw [nextToken, trimStart_idem, ← nextToken]
  cases found : nextToken line with
  | none =>
    rw [tokens, tokens, tokensFuel_succ, tokensFuel_succ, same, found]
  | some pair =>
    obtain ⟨token, rest⟩ := pair
    rw [tokens_cons found]
    exact tokens_cons (same.trans found)

/-- Whatever a quoted argument is made of, the lexer gives it back whole and goes on behind its
    closing quote, with all the arguments that follow. -/
theorem lexer_undoes_quoting (s rest : Text) :
    nextToken (quote (escape s) ++ rest) = some (s, trimStart rest) ∧
      tokens (quote (escape s) ++ rest) = s :: tokens rest := by
  have first := nextToken_quoted s rest
  refine ⟨first, ?_⟩
  rw [tokens_cons first, tokens_trimStart]

/-! The line of a command -/

structure Sends (engine : Bytes → Text) (c : OvpnCodec) (cmd : OvpnCommand) (line : Text) :
    Prop where
  single : WireClean line
  appended : ∀ dst, (c.encode engine cmd dst).2 = (dst ++ lineBytes line, .ok ())

theorem sends_of_line {engine : Bytes → Text} {c : OvpnCodec} {cmd : OvpnCommand} {line : Text}
    (single : WireClean line) (form : commandWire engine c.encoderMode cmd = .ok (.line line)) :
    Sends engine c cmd line := by
  refine ⟨single, fun dst => ?_⟩
  rw [encode_line form (Or.inr (by simp [wireBody]))]
  simp [wireBytes, firstLine, wireBody, trailer]

theorem sends_of_wire {engine : Bytes → Text} (base64 : ∀ b, IsBase64 (engine b)) {c : OvpnCodec}
    {cmd : OvpnCommand} {line : Text} (protocol : WireClean (ungated cmd))
    (form : commandWire engine c.encoderMode cmd = .ok (.line line)) : Sends engine c cmd line :=
  sends_of_line (wire_clean base64 c.encoderMode cmd protocol _ form) form

end MgmtTokens
