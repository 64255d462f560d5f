import OpenvpnMgmt.CommandRoundTrip

/-!
Targets of `kill` on the wire. An address is `proto:ip:port` and a common name is any text, so
the delimiter may not occur in the ip and a name may look like an address.
-/
namespace MgmtKillTargets
open TextOps Utf8Text MgmtEncoder MgmtValues MgmtCommand MgmtCodec MgmtWire MgmtEncodeSafety
  MgmtCommandRoundTrip

def addressText (protocol : TransportProtocol) (ip : Text) (port : U16) : Text :=
  protocol.toText ++ ':' :: ip ++ ':' :: display port

/-- A second colon in the ip ends the third piece before the port. -/
theorem parseKill_colons {protocol : TransportProtocol} {ip : Text} (port : U16)
    (plainProtocol : ':' ∉ protocol.toText) (colon : ':' ∈ ip) :
    parseKill (addressText protocol ip port) =
      .ok (.kill (.commonName (addressText protocol ip port))) := by
  obtain ⟨a, b, rfl, first⟩ := List.eq_append_cons_of_mem colon
  have pieces : splitn 3 (· == ':') (addressText protocol (a ++ ':' :: b) port) =
      [protocol.toText, a, b ++ ':' :: display port] := by
    have shape : addressText protocol (a ++ ':' :: b) port =
        protocol.toText ++ ':' :: (a ++ ':' :: (b ++ ':' :: display port)) := by simp [addressText]
    rw [shape, splitn_cons 1 (free_of plainProtocol) (by decide),
      splitn_cons 0 (free_of first) (by decide)]
    rfl
  have noPort : parseUInt 16 (b ++ ':' :: display port) = none := by
    rw [Option.eq_none_iff_forall_ne_some]
    intro n parsed
    have digit := parseUInt_digits parsed ':' (by simp)
    simp [Char.isDigit] at digit
  have nonempty : addressText protocol (a ++ ':' :: b) port ≠ [] := by simp [addressText]
  simp only [parseKill, nonempty, if_false, pieces, noPort]

section Targets
variable (engine : Bytes → Text) (c : OvpnCodec)

/- The target is accepted and written as this line, whatever stands before it. -/
def KillLine (target : KillTarget) (line : Text) : Prop :=
  ∀ dst, (c.encode engine (.kill target) dst).2 = (dst ++ lineBytes line, .ok ())

def targetText : KillTarget → Text
  | .commonName name => strip name
  | .address protocol ip port => addressText protocol (strip ip) port

theorem target_line {target : KillTarget} (accepted : Accepted c.encoderMode (.kill target)) :
    commandWire engine c.encoderMode (.kill target) =
      .ok (.line (lit "kill" ++ ' ' :: targetText target)) := by
  cases target with
  | commonName name =>
    have gate : c.encoderMode = .sanitize ∨ WireClean name := by
      simpa [Accepted, gatedFields, bodyLines] using accepted
    simp [commandWire, killWire, gate, targetText, lit_eq]
    rfl
  | address protocol ip port =>
    have gate : c.encoderMode = .sanitize ∨ WireClean ip := by
      simpa [Accepted, gatedFields, bodyLines] using accepted
    simp [commandWire, killWire, gate, targetText, addressText, lit_eq]
    rfl

theorem killLine_iff (target : KillTarget) (line : Text) :
    KillLine engine c target line ↔
      Accepted c.encoderMode (.kill target) ∧ line = lit "kill" ++ ' ' :: targetText target := by
  by_cases accepted : Accepted c.encoderMode (.kill target)
  · have written (dst : Bytes) : (c.encode engine (.kill target) dst).2 =
        (dst ++ lineBytes (lit "kill" ++ ' ' :: targetText target), .ok ()) := by
      rw [encode_line (target_line engine c accepted) (Or.inr (by simp [wireBody]))]
      simp [wireBytes, firstLine, wireBody, trailer]
    constructor
    · intro same
      have bytes := congrArg Prod.fst ((same []).symm.trans (written []))
      exact ⟨accepted, lineBytes_inj.mp (by simpa using bytes)⟩
    · rintro ⟨-, rfl⟩
      exact written
  · refine iff_of_false ?_ fun both => accepted both.1
    intro same
    obtain ⟨e, failed⟩ := encode_rejected engine accepted []
    rw [same []] at failed
    cases failed

theorem known_protocol {protocol : TransportProtocol} (known : protocol = .udp ∨ protocol = .tcp) :
    protocol.Named ∧ NoWhitespace protocol.toText ∧ ':' ∉ protocol.toText := by
  rcases known with rfl | rfl <;>
    simp [TransportProtocol.Named, TransportProtocol.toText, NoWhitespace, lit_eq, isWhitespace]

theorem addressText_solid {protocol : TransportProtocol} {ip : Text} (port : U16)
    (known : protocol = .udp ∨ protocol = .tcp) (word : IsWord ip) :
    Solid (addressText protocol ip port) := by
  refine IsWord.solid ⟨by simp [addressText], fun c member => ?_⟩
  simp only [addressText, List.mem_append, List.mem_cons] at member
  rcases member with (first | rfl | second) | rfl | third
  · exact (known_protocol known).2.1 c first
  · decide
  · exact word.2 c second
  · decide
  · exact display_noWhitespace port c third

theorem fromStr_kill {args : Text} (solid : Solid args) :
    OvpnCommand.fromStr (lit "kill" ++ ' ' :: args) = parseKill args := by
  rw [fromStr_args (fixedWords_isWord "kill" (by decide)) solid]
  simp [parseCommand]

def Survives (target : KillTarget) : Prop :=
  ∃ line, KillLine engine c target line ∧ OvpnCommand.fromStr line = .ok (.kill target)

def SameLine (a b : KillTarget) : Prop :=
  ∃ line, KillLine engine c a line ∧ KillLine engine c b line

theorem sameLine_iff (a b : KillTarget) :
    SameLine engine c a b ↔ Accepted c.encoderMode (.kill a) ∧ Accepted c.encoderMode (.kill b) ∧
      targetText a = targetText b := by
  simp only [SameLine, killLine_iff]
  constructor
  · rintro ⟨line, ⟨left, first⟩, right, second⟩
    exact ⟨left, right, by simpa using first.symm.trans second⟩
  · rintro ⟨left, right, same⟩
    exact ⟨_, ⟨left, rfl⟩, right, by rw [same]⟩

theorem survives_iff {protocol : TransportProtocol} {ip : Text} (port : U16)
    (known : protocol = .udp ∨ protocol = .tcp) (word : IsWord ip) (clean : WireClean ip) :
    Survives engine c (.address protocol ip port) ↔ ':' ∉ ip := by
  obtain ⟨named, -, plain⟩ := known_protocol known
  have solid := addressText_solid port known word
  have text : targetText (.address protocol ip port) = addressText protocol ip port := by
    rw [targetText, strip_of_clean clean]
  have accepted : Accepted c.encoderMode (.kill (.address protocol ip port)) :=
    (kill_accepted protocol ip port).mpr (Or.inr clean)
  simp only [Survives, killLine_iff, text]
  constructor
  · rintro ⟨line, ⟨-, rfl⟩, parsed⟩ colon
    rw [fromStr_kill solid, parseKill_colons port plain colon] at parsed
    cases parsed
  · intro free
    refine ⟨_, ⟨accepted, rfl⟩, ?_⟩
    rw [fromStr_kill solid]
    exact parseKill_address port named plain free

/-- An address comes back unless its ip holds the delimiter, and the names taken for it are those
    that spell it. -/
theorem kill_targets_survive :
    (∀ protocol ip (port : U16), protocol = .udp ∨ protocol = .tcp → IsWord ip → WireClean ip →
      (Survives engine c (.address protocol ip port) ↔ ':' ∉ ip)) ∧
    ∀ name protocol ip (port : U16),
      SameLine engine c (.commonName name) (.address protocol ip port) ↔
        (c.encoderMode = .sanitize ∨ WireClean name ∧ WireClean ip) ∧
          strip name = addressText protocol (strip ip) port := by
  refine ⟨fun _ _ port known word clean => survives_iff engine c port known word clean, ?_⟩
  intro name protocol ip port
  rw [sameLine_iff, kill_accepted, ← and_assoc]
  refine and_congr_left fun _ => ?_
  have gate : Accepted c.encoderMode (.kill (.commonName name)) ↔
      c.encoderMode = .sanitize ∨ WireClean name := by simp [Accepted, gatedFields, bodyLines]
  rw [gate, ← or_and_left]

end Targets

theorem ipv4_target_survives :
    Survives Base64Text.encode OvpnCodec.new (.address .udp (lit "10.0.0.1") 1194) :=
  ((kill_targets_survive Base64Text.encode OvpnCodec.new).1 .udp (lit "10.0.0.1") 1194
    (Or.inl rfl) (by decide +kernel) (by decide +kernel)).mpr (by simp [lit_eq])

/-- An IPv6 address comes back as a name, and a name spelled like an address is sent as one. -/
theorem ipv6_target_lost :
    ¬ Survives Base64Text.encode OvpnCodec.new (.address .tcp (lit "::1") 1194) ∧
      SameLine Base64Text.encode OvpnCodec.new (.commonName (lit "tcp:10.0.0.1:1194"))
        (.address .tcp (lit "10.0.0.1") 1194) := by
  constructor
  · rintro ⟨line, written, parsed⟩
    obtain ⟨-, rfl⟩ := (killLine_iff _ _ _ line).mp written
    exact absurd parsed (by decide +kernel)
  · rw [sameLine_iff]
    exact ⟨Or.inl rfl, Or.inl rfl, by decide +kernel⟩

end MgmtKillTargets
