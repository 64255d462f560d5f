import OpenvpnMgmt.Calls
import OpenvpnMgmt.ClientBlocks

/-!
The accumulation limits. They bound both accumulators in every state of a run, errors included;
what an error leaves behind depends on which of the three it is.
-/
namespace MgmtLimits
open TextOps Utf8Text LineFraming MgmtEncoder MgmtMessage MgmtFrame MgmtNotifications
  MgmtCodec MgmtDraining MgmtServerStream MgmtMatching MgmtPipelining MgmtBlocks MgmtCalls
  MgmtClientBlocks

/-! Notifications are no CLIENT blocks -/

section Parsers
variable {α β : Type}

def Gives (p : α → Prop) (o : Option α) : Prop := ∀ a, o = some a → p a

theorem gives_none (p : α → Prop) : Gives p none := by simp [Gives]

theorem gives_some {p : α → Prop} {a : α} (holds : p a) : Gives p (some a) := by
  rintro _ ⟨⟩
  exact holds

theorem gives_bind {p : β → Prop} (o : Option α) {f : α → Option β} (each : ∀ a, Gives p (f a)) :
    Gives p (o >>= f) := by
  intro b found
  obtain ⟨a, -, inner⟩ := Option.bind_eq_some_iff.mp found
  exact each a b inner

theorem gives_map {p : β → Prop} (o : Option α) {f : α → β} (each : ∀ a, p (f a)) :
    Gives p (o.map f) := by
  intro b found
  obtain ⟨a, -, rfl⟩ := Option.map_eq_some_iff.mp found
  exact each a

theorem gives_ite {p : α → Prop} {c : Prop} [Decidable c] {a b : Option α} (yes : Gives p a)
    (no : Gives p b) : Gives p (if c then a else b) := by
  split
  · exact yes
  · exact no

end Parsers

def IsClient : Notification → Prop
  | .client _ _ _ _ => True
  | _ => False

theorem parseTyped_gives {p : Notification → Prop} (kind payload : Text)
    (each : ∀ n, (∀ event cid kid env, n ≠ .client event cid kid env) →
      (∀ cid addr primary, n ≠ .clientAddress cid addr primary) → p n) :
    Gives p (parseTyped kind payload) := by
  unfold parseTyped
  repeat' apply gives_ite
  all_goals
    try simp only [parseState, parseBytecount, parseBytecountCli, parseLog, parseEcho,
      parsePkcs11idCount, parseNeedOk, parseNeedStr, parseRemote, parseProxy,
      parsePassword]
    repeat' first
      | exact gives_none _
      | exact gives_some (each _ nofun nofun)
      | refine gives_bind _ fun _ => ?_
      | exact gives_map _ fun _ => each _ nofun nofun
      | split

theorem parseTyped_notClient (kind payload : Text) :
    Gives (fun n => ¬ IsClient n) (parseTyped kind payload) := by
  apply parseTyped_gives
  intro n other _
  cases n with
  | client event cid kid env => exact absurd rfl (other event cid kid env)
  | _ => exact id

/-! The bounds -/

structure Bounded (m e : Nat) (c : OvpnCodec) : Prop where
  lineLimit : c.maxMultiLineLines = .max m
  entryLimit : c.frameDecoder.maxClientEnvEntries = .max e
  lines : ∀ buf, c.multiLineBuf = some buf → buf.length ≤ m
  entries : ∀ accum, c.frameDecoder.clientNotification = some accum → accum.env.size ≤ e

def WithinLimits (m e : Nat) : Event → Prop
  | .ok (.multiLine lines) => lines.length ≤ m
  | .ok (.notification (.client _ _ _ env)) => env.size ≤ e
  | _ => True

section Bounds
variable {m e : Nat}

theorem bounded_forget {a b : OvpnCodec} (same : forget a = forget b) (bounded : Bounded m e a) :
    Bounded m e b := by
  obtain ⟨-, block, limit, frames⟩ := forget_fields same
  obtain ⟨lineLimit, entryLimit, lines, entries⟩ := bounded
  rw [limit] at lineLimit
  rw [frames] at entryLimit entries
  rw [block] at lines
  exact ⟨lineLimit, entryLimit, lines, entries⟩

theorem takeBytes_entries {d : FrameDecoder} (limit : d.maxClientEnvEntries = .max e)
    (entries : ∀ accum, d.clientNotification = some accum → accum.env.size ≤ e)
    (lineBytes : Bytes) :
    (∀ accum, (d.takeBytes lineBytes).1.clientNotification = some accum → accum.env.size ≤ e) ∧
      ∀ event args env, (d.takeBytes lineBytes).2 = some (.ok (.clientEnv event args env)) →
        env.size ≤ e := by
  refine ⟨?_, fun event args env emitted => entries _ (takeBytes_clientEnv emitted)⟩
  intro after opened
  cases takeBytes_block d lineBytes with
  | drops _ closed => simp [closed] at opened
  | closes _ _ _ closed => simp [closed] at opened
  | @grows _ rest accum _ _ _ _ room grown =>
    rw [grown] at opened
    cases opened
    have fits : accum.env.size < e := room e limit
    have more := Std.ExtTreeMap.size_insert_le (t := accum.env) (k := (entryOf rest).1)
      (v := (entryOf rest).2)
    simp only
    omega
  | refuses _ _ _ _ _ same => exact entries after (same ▸ opened)
  | opens _ _ _ fresh =>
    rw [fresh] at opened
    cases opened
    simp
  | passes _ _ _ same => exact entries after (same ▸ opened)

theorem takeLine_bounded (positive : 1 ≤ m) {c : OvpnCodec} (bounded : Bounded m e c) (line : Text) :
    Bounded m e (c.takeLine line).1 ∧ ∀ event ∈ (c.takeLine line).2, WithinLimits m e event := by
  unfold OvpnCodec.takeLine
  split
  · exact ⟨bounded, by simp⟩
  · split
    · exact ⟨bounded, by simp [WithinLimits]⟩
    · cases block : c.multiLineBuf with
      | some buf =>
        simp only [bounded.lineLimit]
        split
        · exact ⟨bounded, by simp [WithinLimits]⟩
        · rename_i room
          refine ⟨⟨rfl, bounded.entryLimit, ?_, bounded.entries⟩, by simp⟩
          rintro _ ⟨⟩
          simp only [List.length_append, List.length_singleton]
          omega
      | none =>
        simp only
        split
        · refine ⟨⟨bounded.lineLimit, bounded.entryLimit, ?_, bounded.entries⟩, by simp⟩
          rintro _ ⟨⟩
          exact positive
        · exact ⟨⟨bounded.lineLimit, bounded.entryLimit, bounded.lines, bounded.entries⟩,
            by simp [WithinLimits]⟩
        · exact ⟨⟨bounded.lineLimit, bounded.entryLimit, bounded.lines, bounded.entries⟩,
            by simp [WithinLimits]⟩

theorem takeEnd_bounded {c : OvpnCodec} (bounded : Bounded m e c) :
    Bounded m e c.takeEnd.1 ∧ ∀ event ∈ c.takeEnd.2, WithinLimits m e event := by
  unfold OvpnCodec.takeEnd
  split
  · rename_i lines block
    refine ⟨⟨bounded.lineLimit, bounded.entryLimit, by rintro _ ⟨⟩, bounded.entries⟩, ?_⟩
    simpa [WithinLimits] using bounded.lines lines block
  · split
    · exact ⟨⟨bounded.lineLimit, bounded.entryLimit, bounded.lines, bounded.entries⟩,
        by simp [WithinLimits]⟩
    · exact ⟨bounded, by simp [WithinLimits]⟩

theorem withinLimits_other {n : Notification} (other : ¬ IsClient n) :
    WithinLimits m e (.ok (.notification n)) := by
  cases n with
  | client => exact absurd trivial other
  | _ => trivial

theorem withinLimits_notification (kind payload : Text) :
    WithinLimits m e (.ok (parseNotificationFromFrame kind payload)) := by
  unfold parseNotificationFromFrame
  split
  · refine withinLimits_other ?_
    simp only [parseClientAddress]
    split <;> exact id
  · split
    · trivial
    · split
      · cases entry : parsePkcs11idEntryNotif payload with
        | none => trivial
        | some message =>
          obtain ⟨_, _, _, rfl⟩ := pkcs11_entry entry
          trivial
      · refine withinLimits_other ?_
        cases typed : parseTyped kind payload with
        | none => exact id
        | some n => exact parseTyped_notClient kind payload n typed

theorem takeFrame_bounded (positive : 1 ≤ m) {c : OvpnCodec} (bounded : Bounded m e c) {frame : Frame}
    (small : ∀ event args env, frame = .clientEnv event args env → env.size ≤ e) :
    Bounded m e (c.takeFrame frame).1 ∧
      ∀ event ∈ (c.takeFrame frame).2, WithinLimits m e event := by
  have popped : Bounded m e c.consumeExpected :=
    ⟨bounded.lineLimit, bounded.entryLimit, bounded.lines, bounded.entries⟩
  cases frame with
  | success | error => exact ⟨popped, by simp [OvpnCodec.takeFrame, WithinLimits]⟩
  | passwordPrompt | info => exact ⟨bounded, by simp [OvpnCodec.takeFrame, WithinLimits]⟩
  | notification kind payload =>
    refine ⟨bounded, ?_⟩
    rintro _ ⟨⟩
    exact withinLimits_notification kind payload
  | clientEnv event args env =>
    refine ⟨⟨bounded.lineLimit, bounded.entryLimit, bounded.lines, bounded.entries⟩, ?_⟩
    rintro _ ⟨⟩
    exact small event args env rfl
  | endMarker => exact takeEnd_bounded bounded
  | line text => exact takeLine_bounded positive bounded text

theorem takeBytes_bounded (positive : 1 ≤ m) {c : OvpnCodec} (lineBytes : Bytes)
    (bounded : Bounded m e c) :
    Bounded m e (c.takeBytes lineBytes).1 ∧
      ∀ event ∈ (c.takeBytes lineBytes).2, WithinLimits m e event := by
  obtain ⟨entries, small⟩ := takeBytes_entries bounded.entryLimit bounded.entries lineBytes
  have limit := (takeBytes_limit c.frameDecoder lineBytes).trans bounded.entryLimit
  rw [OvpnCodec.takeBytes]
  rcases taken : c.frameDecoder.takeBytes lineBytes with ⟨d, _ | error | frame⟩
  all_goals
    rw [taken] at entries small limit
    have kept : Bounded m e (c.withFrames d) := ⟨bounded.lineLimit, limit, bounded.lines, entries⟩
  · exact ⟨kept, by simp⟩
  · exact ⟨⟨kept.lineLimit, kept.entryLimit, by rintro _ ⟨⟩, kept.entries⟩,
      by simp [WithinLimits]⟩
  · refine takeFrame_bounded positive kept ?_
    rintro event args env rfl
    exact small event args env rfl

end Bounds

/-- In every run both accumulators and everything handed out stay within the limits. -/
theorem accumulation_bounded (engine : Bytes → Text) {m : Nat} (positive : 1 ≤ m) (e : Nat)
    (mode : EncoderMode) (steps : List Step) :
    let start : Endpoint := ⟨((OvpnCodec.new.withMaxMultiLineLines (.max m)).withMaxClientEnvEntries
      (.max e)).withEncoderMode mode, [], []⟩
    let r := run engine start steps
    (∀ buf, r.1.codec.multiLineBuf = some buf → buf.length ≤ m) ∧
      (∀ accum, r.1.codec.frameDecoder.clientNotification = some accum → accum.env.size ≤ e) ∧
      (∀ lines, .ok (.multiLine lines) ∈ r.2 → lines.length ≤ m) ∧
      ∀ event cid kid env, .ok (.notification (.client event cid kid env)) ∈ r.2 → env.size ≤ e := by
  intro start r
  have fresh : Bounded m e start.codec := ⟨rfl, rfl, by rintro _ ⟨⟩, by rintro _ ⟨⟩⟩
  obtain ⟨bounded, small⟩ := run_invariant bounded_forget (takeBytes_bounded positive) trivial
    (fun _ bounded => ⟨bounded.lineLimit, bounded.entryLimit, bounded.lines, bounded.entries⟩)
    engine fresh steps
  exact ⟨bounded.lines, bounded.entries, fun lines member => small _ member,
    fun event cid kid env member => small _ member⟩

theorem accumulation_bounded_one :
    let start : Endpoint := ⟨((OvpnCodec.new.withMaxMultiLineLines (.max 1)).withMaxClientEnvEntries
      (.max 0)).withEncoderMode .sanitize, [], []⟩
    let r := run (fun _ => []) start
      [.encode .state, .receive (wire [['a'], ['b'], endMarker]), .poll, .poll]
    r.2 = [.error (.multiLineAccumulationLimitExceeded 1), .ok (.multiLine [['a']])] ∧
      ∀ lines, .ok (.multiLine lines) ∈ r.2 → lines.length ≤ 1 :=
  ⟨by decide +kernel, (accumulation_bounded _ (Nat.le_refl 1) 0 _ _).2.2.1⟩

/-! Errors -/

/- What an error leaves of the blocks and the queue, given the codec its line met. -/
def Leaves (before after : OvpnCodec) : IoError → Prop
  | .invalidData => after.multiLineBuf = none ∧ after.expectedQueue = [] ∧
      after.frameDecoder.clientNotification = none
  | .accumulationLimitExceeded _ _ => after.multiLineBuf = none ∧ after.expectedQueue = []
  | .multiLineAccumulationLimitExceeded most =>
      after.multiLineBuf = before.multiLineBuf ∧ after.expectedQueue = before.expectedQueue ∧
      after.frameDecoder.clientNotification = before.frameDecoder.clientNotification ∧
      ∃ buf, before.multiLineBuf = some buf ∧ before.maxMultiLineLines = .max most ∧
        most ≤ buf.length

theorem takeLine_leaves {c after : OvpnCodec} {line : Text} {e : IoError}
    (failed : c.takeLine line = (after, some (.error e))) : Leaves c after e := by
  unfold OvpnCodec.takeLine at failed
  split at failed
  · cases failed
  · split at failed
    · cases failed
    · cases block : c.multiLineBuf with
      | some buf =>
        simp only [block] at failed
        cases limit : c.maxMultiLineLines with
        | unlimited => simp [limit] at failed
        | max most =>
          simp only [limit] at failed
          split at failed
          · rename_i full
            cases failed
            exact ⟨rfl, rfl, rfl, buf, block, limit, full⟩
          · cases failed
      | none =>
        simp only [block] at failed
        split at failed <;> cases failed

/-- Two of the errors come from the frame decoder, and only they go through the reset. -/
theorem takeBytes_leaves {c after : OvpnCodec} {lineBytes : Bytes} {e : IoError}
    (failed : c.takeBytes lineBytes = (after, some (.error e))) : Leaves c after e := by
  have block := takeBytes_block c.frameDecoder lineBytes
  rw [OvpnCodec.takeBytes] at failed
  rcases taken : c.frameDecoder.takeBytes lineBytes with ⟨d, _ | error | frame⟩
  all_goals
    rw [taken] at failed block
    simp only at failed
  · cases failed
  · cases failed
    cases block with
    | drops _ closed result =>
      cases result
      exact ⟨rfl, rfl, closed⟩
    | refuses _ _ _ _ _ _ result =>
      cases result
      exact ⟨rfl, rfl⟩
    | closes _ _ _ _ result | grows _ _ _ _ _ _ result | opens _ _ _ _ result
    | passes _ _ _ _ result => cases result
  · cases frame with
    | line text =>
      have left := takeLine_leaves failed
      cases block with
      | passes _ _ _ same =>
        cases e with
        | multiLineAccumulationLimitExceeded most =>
          exact ⟨left.1, left.2.1, left.2.2.1.trans same, left.2.2.2⟩
        | _ => exact left
      | drops _ _ result | refuses _ _ _ _ _ _ result | closes _ _ _ _ result
      | grows _ _ _ _ _ _ result | opens _ _ _ _ result => cases result
    | endMarker =>
      simp only [OvpnCodec.takeFrame, OvpnCodec.takeEnd] at failed
      repeat' split at failed
      all_goals cases failed
    | _ => cases failed

theorem leaves_forget {before after : OvpnCodec} {e : IoError} :
    Leaves before (forget after) e ↔ Leaves before after e := by
  cases e <;> rfl

theorem call_leaves {c after : OvpnCodec} {src rest : Bytes}
    {out : Except IoError (Option OvpnMessage)} (call : Call c src after rest out) {e : IoError}
    (failed : out = .error e) :
    ∃ earlier t, taken c src = earlier ++ [t] ∧ Leaves t.1 after e := by
  induction call with
  | quiet | prompt => cases failed
  | @result c after body rest out clean line =>
    cases out with
    | ok message => cases failed
    | error e =>
      cases failed
      rw [taken_line c clean, line]
      exact ⟨[], _, rfl, leaves_forget.mpr (takeBytes_leaves line)⟩
  | @silent c _ _ body rest _ _ clean line more ih =>
    obtain ⟨earlier, t, shape, left⟩ := ih failed
    rw [taken_line c clean, line]
    exact ⟨_ :: earlier, t, congrArg (List.cons _) shape, left⟩

/-- After an error of `decode`: invalid UTF-8 clears all three, the ENV limit clears block and
    queue, and the limit on lines leaves all as its line found it, with the full block open. -/
theorem error_leaves {c : OvpnCodec} {src : Bytes} {e : IoError}
    (failed : (c.decode src).2.2 = .error e) :
    ∃ earlier t, taken c src = earlier ++ [t] ∧ Leaves t.1 (c.decode src).1 e := by
  obtain ⟨earlier, t, shape, left⟩ := call_leaves (decode_call c src) failed
  exact ⟨earlier, t, shape, leaves_forget.mp left⟩

/-- The limit on lines is an error that clears neither the block nor the queue; the END of the block
    hands out what was gathered. -/
theorem error_leaves_block :
    let c := ((OvpnCodec.new.withMaxMultiLineLines (.max 1)).encode (fun _ => []) .state []).1
    let r := c.decode (wire [['a'], ['b']])
    r.2.2 = .error (.multiLineAccumulationLimitExceeded 1) ∧
      r.1.multiLineBuf = some [['a']] ∧ r.1.expectedQueue = [.multiLine] ∧
      (r.1.decode (wire [endMarker])).2.2 = .ok (some (.multiLine [['a']])) := by
  decide +kernel

theorem error_leaves_unreadable :
    let c := { OvpnCodec.new with multiLineBuf := some [['a']], expectedQueue := [.multiLine] }
    ∃ earlier t, taken c [0xFF, newline] = earlier ++ [t] ∧
      Leaves t.1 (c.decode [0xFF, newline]).1 .invalidData :=
  error_leaves (by decide +kernel)

end MgmtLimits
