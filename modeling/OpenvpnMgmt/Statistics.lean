import OpenvpnMgmt.Lib.KeyValues
import OpenvpnMgmt.ParsedResponse
import OpenvpnMgmt.Status

/-!
Two responses that are lists of keys with values: the statistics of client mode, one key on a
line, and the payload of `load-stats`, one key between commas. Their parsers do not care about the
order of the keys, nor about keys they do not know.
-/
namespace MgmtStatistics
open TextOps Results SeparatedRows KeyValues MgmtValues MgmtStatus MgmtParsedResponse

/-! Client statistics -/

structure ClientStatistics where
  tunTapReadBytes : U64
  tunTapWriteBytes : U64
  tcpUdpReadBytes : U64
  tcpUdpWriteBytes : U64
  authReadBytes : U64
  preCompressBytes : Option U64
  postCompressBytes : Option U64
  preDecompressBytes : Option U64
  postDecompressBytes : Option U64
  deriving DecidableEq, Repr

/- The statistics read so far, and which of the required keys were found. -/
structure Reading where
  stats : ClientStatistics
  foundTunRead : Bool
  foundTunWrite : Bool
  foundTcpRead : Bool
  foundTcpWrite : Bool
  foundAuthRead : Bool

def Reading.start : Reading :=
  ⟨⟨0, 0, 0, 0, 0, none, none, none, none⟩, false, false, false, false, false⟩

def statisticsEntry (line : Text) : Option (Text × Text) :=
  if line = lit "OpenVPN STATISTICS" ∨ lit "Updated," <+: line then none
  else splitOnce (· == ',') line

/- What the value of a key sets; its number is reported under a name of its own. -/
def counter (field : String) (set : U64 → Reading → Reading) (value : Text) :
    Parsed (Reading → Reading) := do
  let n ← parseU64 value field
  return set n

def statisticsFields : List (Text × (Text → Parsed (Reading → Reading))) :=
  [(lit "TUN/TAP read bytes", counter "tun_tap_read_bytes" fun n r =>
      { r with stats := { r.stats with tunTapReadBytes := n }, foundTunRead := true }),
    (lit "TUN/TAP write bytes", counter "tun_tap_write_bytes" fun n r =>
      { r with stats := { r.stats with tunTapWriteBytes := n }, foundTunWrite := true }),
    (lit "TCP/UDP read bytes", counter "tcp_udp_read_bytes" fun n r =>
      { r with stats := { r.stats with tcpUdpReadBytes := n }, foundTcpRead := true }),
    (lit "TCP/UDP write bytes", counter "tcp_udp_write_bytes" fun n r =>
      { r with stats := { r.stats with tcpUdpWriteBytes := n }, foundTcpWrite := true }),
    (lit "Auth read bytes", counter "auth_read_bytes" fun n r =>
      { r with stats := { r.stats with authReadBytes := n }, foundAuthRead := true }),
    (lit "pre-compress bytes", counter "pre_compress_bytes" fun n r =>
      { r with stats := { r.stats with preCompressBytes := some n } }),
    (lit "post-compress bytes", counter "post_compress_bytes" fun n r =>
      { r with stats := { r.stats with postCompressBytes := some n } }),
    (lit "pre-decompress bytes", counter "pre_decompress_bytes" fun n r =>
      { r with stats := { r.stats with preDecompressBytes := some n } }),
    (lit "post-decompress bytes", counter "post_decompress_bytes" fun n r =>
      { r with stats := { r.stats with postDecompressBytes := some n } })]

def statistics : Format Text Text Text Reading ParseStatusError :=
  .ofTable statisticsEntry statisticsFields

def required (found : Bool) (key : String) : Parsed Unit :=
  if found then .ok () else .error (.missingStatisticsKey (lit key))

def Reading.finish (r : Reading) : Parsed ClientStatistics := do
  required r.foundTunRead "TUN/TAP read bytes"
  required r.foundTunWrite "TUN/TAP write bytes"
  required r.foundTcpRead "TCP/UDP read bytes"
  required r.foundTcpWrite "TCP/UDP write bytes"
  required r.foundAuthRead "Auth read bytes"
  return r.stats

def parseClientStatistics (lines : List Text) : Parsed ClientStatistics := do
  let r ← lines.foldlM statistics.take .start
  r.finish

/-! Load statistics -/

structure LoadStats where
  nclients : U64
  bytesin : U64
  bytesout : U64
  deriving DecidableEq, Repr

structure LoadReading where
  nclients : Option U64
  bytesin : Option U64
  bytesout : Option U64

def loadField (field : String) (set : U64 → LoadReading → LoadReading) (value : Text) :
    Except ParseResponseError (LoadReading → LoadReading) :=
  match parseUInt 64 value with
  | some n => .ok (set n)
  | none => .error (.invalidInteger (lit field) value)

def loadFields : List (Text × (Text → Except ParseResponseError (LoadReading → LoadReading))) :=
  [(lit "nclients", loadField "nclients" fun n r => { r with nclients := some n }),
    (lit "bytesin", loadField "bytesin" fun n r => { r with bytesin := some n }),
    (lit "bytesout", loadField "bytesout" fun n r => { r with bytesout := some n })]

def loadStats : Format Text Text Text LoadReading ParseResponseError :=
  .ofTable (splitOnce (· == '=')) loadFields

def orMissing (field : String) : Option U64 → Except ParseResponseError U64
  | some n => .ok n
  | none => .error (.missingField (lit field))

def LoadReading.finish (r : LoadReading) : Except ParseResponseError LoadStats := do
  return ⟨← orMissing "nclients" r.nclients, ← orMissing "bytesin" r.bytesin,
    ← orMissing "bytesout" r.bytesout⟩

def parseLoadStats (payload : Text) : Except ParseResponseError LoadStats := do
  let r ← (split ',' payload).foldlM loadStats.take ⟨none, none, none⟩
  r.finish

/-! Different keys set different fields -/

theorem counter_commute {first second : String} {set other : U64 → Reading → Reading}
    (commute : ∀ m n r, set m (other n r) = other n (set m r)) :
    Commute (counter first set) (counter second other) := by
  intro v w f g setF setG s
  obtain ⟨m, -, same⟩ := bind_eq_ok.mp setF
  cases same
  obtain ⟨n, -, same⟩ := bind_eq_ok.mp setG
  cases same
  exact commute m n s

theorem statistics_independent : statistics.Independent := by
  apply independent_of_table
  simp only [statisticsFields, List.pairwise_cons, List.mem_cons, List.not_mem_nil, or_false,
    forall_eq_or_imp, forall_eq, false_implies, implies_true, List.Pairwise.nil, and_true]
  refine ⟨⟨?_, ?_, ?_, ?_, ?_, ?_, ?_, ?_⟩, ⟨?_, ?_, ?_, ?_, ?_, ?_, ?_⟩, ⟨?_, ?_, ?_, ?_, ?_, ?_⟩,
    ⟨?_, ?_, ?_, ?_, ?_⟩, ⟨?_, ?_, ?_, ?_⟩, ⟨?_, ?_, ?_⟩, ⟨?_, ?_⟩, ?_⟩
  all_goals
    apply counter_commute
    intro m n r
    rfl

theorem loadField_commute {first second : String} {set other : U64 → LoadReading → LoadReading}
    (commute : ∀ m n r, set m (other n r) = other n (set m r)) :
    Commute (loadField first set) (loadField second other) := by
  intro v w f g setF setG s
  unfold loadField at setF setG
  split at setF
  · cases setF
    split at setG
    · cases setG
      exact commute _ _ s
    · cases setG
  · cases setF

theorem loadStats_independent : loadStats.Independent := by
  apply independent_of_table
  simp only [loadFields, List.pairwise_cons, List.mem_cons, List.not_mem_nil, or_false,
    forall_eq_or_imp, forall_eq, false_implies, implies_true, List.Pairwise.nil, and_true]
  refine ⟨⟨?_, ?_⟩, ?_⟩
  all_goals
    apply loadField_commute
    intro m n r
    rfl

/-! The order does not matter -/

theorem parseClientStatistics_reordered {lines others extra : List Text}
    (apart : lines.Pairwise statistics.Apart) (unknown : ∀ line ∈ extra, statistics.Unknown line)
    (perm : others.Perm (lines ++ extra)) (s : ClientStatistics) :
    parseClientStatistics lines = .ok s ↔ parseClientStatistics others = .ok s := by
  have folds := foldlM_reordered statistics_independent apart unknown perm .start
  rw [← toOption_eq_some, ← toOption_eq_some, parseClientStatistics, parseClientStatistics,
    toOption_bind, toOption_bind, folds]

theorem parseLoadStats_reordered {payload other : Text} {extra : List Text}
    (apart : (split ',' payload).Pairwise loadStats.Apart)
    (unknown : ∀ part ∈ extra, loadStats.Unknown part)
    (perm : (split ',' other).Perm (split ',' payload ++ extra)) (s : LoadStats) :
    parseLoadStats payload = .ok s ↔ parseLoadStats other = .ok s := by
  have folds := foldlM_reordered loadStats_independent apart unknown perm ⟨none, none, none⟩
  rw [← toOption_eq_some, ← toOption_eq_some, parseLoadStats, parseLoadStats, toOption_bind,
    toOption_bind, folds]

/-- The keys of a response may come in any order and among keys that are not known, as long as no
    known key comes twice. -/
theorem key_values_reordered :
    (∀ lines others extra : List Text, lines.Pairwise statistics.Apart →
      (∀ line ∈ extra, statistics.Unknown line) → others.Perm (lines ++ extra) →
      ∀ s, parseClientStatistics lines = .ok s ↔ parseClientStatistics others = .ok s) ∧
    ∀ (payload other : Text) (extra : List Text), (split ',' payload).Pairwise loadStats.Apart →
      (∀ part ∈ extra, loadStats.Unknown part) →
      (split ',' other).Perm (split ',' payload ++ extra) →
      ∀ s, parseLoadStats payload = .ok s ↔ parseLoadStats other = .ok s := by
  refine ⟨?_, ?_⟩
  · intro lines others extra apart unknown perm s
    exact parseClientStatistics_reordered apart unknown perm s
  · intro payload other extra apart unknown perm s
    exact parseLoadStats_reordered apart unknown perm s

theorem key_values_reordered_load :
    parseLoadStats (lit "nclients=3,bytesin=1,bytesout=2") = .ok ⟨3, 1, 2⟩ ∧
      parseLoadStats (lit "bytesout=2,uptime=9,nclients=3,bytesin=1") = .ok ⟨3, 1, 2⟩ := by
  have read : parseLoadStats (lit "nclients=3,bytesin=1,bytesout=2") = .ok ⟨3, 1, 2⟩ := by
    decide +kernel
  have same := key_values_reordered.2 (lit "nclients=3,bytesin=1,bytesout=2")
    (lit "bytesout=2,uptime=9,nclients=3,bytesin=1") [lit "uptime=9"] (by decide +kernel)
    (by decide +kernel) (by decide +kernel) ⟨3, 1, 2⟩
  exact ⟨read, same.mp read⟩

/-! The server's rendering -/

def statisticsLine (key : String) (n : U64) : Text := lit key ++ ',' :: display n

def optionalLine (key : String) (n : Option U64) : List Text := (n.map (statisticsLine key)).toList

def statisticsLines (updated : Text) (s : ClientStatistics) : List Text :=
  [lit "OpenVPN STATISTICS", lit "Updated," ++ updated,
    statisticsLine "TUN/TAP read bytes" s.tunTapReadBytes,
    statisticsLine "TUN/TAP write bytes" s.tunTapWriteBytes,
    statisticsLine "TCP/UDP read bytes" s.tcpUdpReadBytes,
    statisticsLine "TCP/UDP write bytes" s.tcpUdpWriteBytes,
    statisticsLine "Auth read bytes" s.authReadBytes] ++
  optionalLine "pre-compress bytes" s.preCompressBytes ++
  optionalLine "post-compress bytes" s.postCompressBytes ++
  optionalLine "pre-decompress bytes" s.preDecompressBytes ++
  optionalLine "post-decompress bytes" s.postDecompressBytes

theorem statisticsFields_nodup : (statisticsFields.map Prod.fst).Nodup := by decide +kernel

theorem statisticsFields_plain :
    ∀ key ∈ statisticsFields.map Prod.fst, ',' ∉ key ∧ key ≠ lit "Updated" := by
  decide +kernel

section Lines
variable {key field : String} {set : U64 → Reading → Reading} (i : Nat)
  (known : statisticsFields[i]? = some (lit key, counter field set))
include known

theorem take_counter (n : U64) (r : Reading) :
    statistics.take r (statisticsLine key n) = .ok (set n r) := by
  have member := List.mem_of_getElem? known
  obtain ⟨plain, other⟩ := statisticsFields_plain (lit key) (List.mem_map_of_mem member)
  have start : lit "Updated," = lit "Updated" ++ [','] := by simp [lit_eq]
  have title : statisticsLine key n ≠ lit "OpenVPN STATISTICS" := by
    intro same
    have comma : ',' ∈ lit "OpenVPN STATISTICS" := by
      rw [← same]
      simp [statisticsLine]
    simp [lit_eq] at comma
  have time : ¬ lit "Updated," <+: statisticsLine key n := by
    rw [start]
    intro inside
    exact other (field_of_start (by simp [lit_eq]) plain inside).1.symm
  have entry : statistics.entry (statisticsLine key n) = some (lit key, display n) := by
    change statisticsEntry _ = _
    rw [statisticsEntry, if_neg (by simp [title, time])]
    exact splitOnce_append (free_of plain) (by simp)
  have read : statistics.field (lit key) = some (counter field set) :=
    lookup_of_nodup statisticsFields_nodup member
  rw [Format.take, Format.update, entry]
  simp only [read, counter, parseU64, parseUInt_display]
  rfl

theorem take_optional (n : Option U64) (r : Reading) :
    (optionalLine key n).foldlM statistics.take r = .ok (n.elim r fun n => set n r) := by
  cases n with
  | none => rfl
  | some n => exact foldlM_cons_of_ok (take_counter i known n r) []

end Lines

theorem parse_statisticsLines (updated : Text) (s : ClientStatistics) :
    parseClientStatistics (statisticsLines updated s) = .ok s := by
  have title (r : Reading) : statistics.take r (lit "OpenVPN STATISTICS") = .ok r := by
    have entry : statistics.entry (lit "OpenVPN STATISTICS") = none := by
      change statisticsEntry _ = _
      rw [statisticsEntry, if_pos (by simp)]
    rw [Format.take, Format.update, entry]
    rfl
  have time (r : Reading) : statistics.take r (lit "Updated," ++ updated) = .ok r := by
    have entry : statistics.entry (lit "Updated," ++ updated) = none := by
      change statisticsEntry _ = _
      rw [statisticsEntry, if_pos (by simp)]
    rw [Format.take, Format.update, entry]
    rfl
  rw [parseClientStatistics, statisticsLines]
  simp only [List.append_assoc, List.cons_append, List.nil_append]
  rw [foldlM_cons_of_ok (title _), foldlM_cons_of_ok (time _),
    foldlM_cons_of_ok (take_counter 0 rfl _ _), foldlM_cons_of_ok (take_counter 1 rfl _ _),
    foldlM_cons_of_ok (take_counter 2 rfl _ _), foldlM_cons_of_ok (take_counter 3 rfl _ _),
    foldlM_cons_of_ok (take_counter 4 rfl _ _), foldlM_append_of_ok (take_optional 5 rfl _ _),
    foldlM_append_of_ok (take_optional 6 rfl _ _), foldlM_append_of_ok (take_optional 7 rfl _ _),
    take_optional 8 rfl _ _]
  obtain ⟨_, _, _, _, _, pre, post, preD, postD⟩ := s
  cases pre <;> cases post <;> cases preD <;> cases postD <;> rfl

end MgmtStatistics
