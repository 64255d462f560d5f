import OpenvpnMgmt.ClientBlocks
import OpenvpnMgmt.Matching

/-!
Notifications of one line between the lines of any stream. Each of them is a message of its own in
every state of the codec and leaves that state alone, so the stream around it decodes as if it
were not there.
-/
namespace MgmtTransparency
open TextOps Utf8Text LineFraming MgmtEncoder MgmtMessage MgmtFrame MgmtNotifications MgmtCodec
  MgmtDraining MgmtServerStream MgmtMatching MgmtClientBlocks

/-- A notification of one line, as the decoder reads it: not INFO, whose first line is the banner,
    and of the CLIENT kind only ADDRESS, which opens no block. -/
structure SingleNotice (raw kind payload : Text) : Prop where
  oneLine : '\n' ∉ raw
  shape : trimLineEnd raw = noticeLine kind payload
  clean : ':' ∉ kind
  notInfo : kind ≠ lit "INFO"
  address : kind = lit "CLIENT" →
    ((splitOnce (· == ',') payload).getD (payload, [])).1 = lit "ADDRESS"

theorem SingleNotice.outside {raw kind payload : Text} (single : SingleNotice raw kind payload) :
    envRest (noticeLine kind payload) = none := by
  rw [envRest, stripPrefix_eq_none]
  rintro ⟨rest, shape⟩
  have client : lit ">CLIENT:ENV," ++ rest = noticeLine (lit "CLIENT") (lit "ENV" ++ ',' :: rest) := by
    simp [noticeLine, lit_eq]
  obtain ⟨rfl, rfl⟩ := noticeLine_inj client_plain single.clean (client.symm.trans shape)
  have event := single.address rfl
  rw [splitOnce_append (by simp [lit_eq]) (by simp)] at event
  simp [lit_eq] at event

theorem SingleNotice.takeLine {raw kind payload : Text} (single : SingleNotice raw kind payload)
    (d : FrameDecoder) :
    d.takeLine (trimLineEnd raw) = (d, some (.ok (.notification kind payload))) := by
  have filled : noticeLine kind payload ≠ [] := by simp [noticeLine]
  have frame : d.takeNotice kind payload = (d, some (.ok (.notification kind payload))) := by
    rw [FrameDecoder.takeNotice, if_neg single.notInfo]
    split
    · rename_i client
      simp only [single.address client, if_true, client]
    · rfl
  have outside : stripPrefix (noticeLine kind payload) (lit ">CLIENT:ENV,") = none := single.outside
  rw [single.shape, FrameDecoder.takeLine, if_neg (by simp [filled])]
  cases d.clientNotification <;> simp only [outside, classify_notice d single.clean, frame]

theorem SingleNotice.takeBytes {raw kind payload : Text} (single : SingleNotice raw kind payload)
    (c : OvpnCodec) :
    c.takeBytes (toUtf8 raw ++ [newline]) =
      (c, some (.ok (parseNotificationFromFrame kind payload))) := by
  rw [takeBytes_raw, single.takeLine c.frameDecoder]
  rfl

/- The codec as a machine that keeps its log flag. -/
def flaggedMachine : Machine OvpnCodec UInt8 Event := fun c line =>
  ((c.takeBytes line).1, (c.takeBytes line).2.toList)

theorem drained_feed (c : OvpnCodec) {lines : List Bytes} (whole : ∀ l ∈ lines, IsLine newline l) :
    drained c lines.flatten =
      (forget (feed flaggedMachine c lines).1, [], (feed flaggedMachine c lines).2) := by
  induction lines generalizing c with
  | nil => exact drained_nil c
  | cons line more ih =>
    obtain ⟨body, rfl, clean⟩ := whole line (by simp)
    have later := ih (c.takeBytes (body ++ [newline])).1 fun l member => whole l (by simp [member])
    rw [List.flatten_cons, List.append_assoc, List.singleton_append, drained_line c clean, later]
    rfl

/-! Insertion -/

inductive Item where
  | line (body : Bytes)
  | notice (raw : Text)

def Item.Whole : Item → Prop
  | .line body => newline ∉ body
  | .notice raw => ∃ kind payload, SingleNotice raw kind payload

def alone (raw : Text) : List Event := (drain OvpnCodec.new (wire [raw])).2.2

def Item.woven : Item → Woven UInt8 Event
  | .line body => .line (body ++ [newline])
  | .notice raw => .note (toUtf8 raw ++ [newline]) (alone raw)

theorem SingleNotice.alone {raw kind payload : Text} (single : SingleNotice raw kind payload) :
    alone raw = [.ok (parseNotificationFromFrame kind payload)] := by
  have decoded := drained_raw OvpnCodec.new single.oneLine []
  rw [single.takeBytes, drained_nil] at decoded
  exact congrArg (fun r => r.2.2) decoded

theorem woven_lines {items : List Item} (whole : ∀ item ∈ items, item.Whole) :
    (∀ l ∈ (items.map Item.woven).map Woven.content, IsLine newline l) ∧
      ∀ l ∈ linesOf (items.map Item.woven), IsLine newline l := by
  induction items with
  | nil => simp [linesOf]
  | cons item more ih =>
    obtain ⟨all, lines⟩ := ih fun item member => whole item (List.mem_cons_of_mem _ member)
    have here := whole item List.mem_cons_self
    cases item with
    | line body =>
      have first : IsLine newline (body ++ [newline]) := ⟨body, rfl, here⟩
      exact ⟨List.forall_mem_cons.mpr ⟨first, all⟩, List.forall_mem_cons.mpr ⟨first, lines⟩⟩
    | notice raw =>
      obtain ⟨kind, payload, single⟩ := here
      have first : IsLine newline (toUtf8 raw ++ [newline]) :=
        ⟨toUtf8 raw, rfl, newline_not_mem single.oneLine⟩
      exact ⟨List.forall_mem_cons.mpr ⟨first, all⟩, lines⟩

theorem woven_notes {items : List Item} (whole : ∀ item ∈ items, item.Whole) :
    ∀ content out, .note content out ∈ items.map Item.woven →
      ∀ c, flaggedMachine c content = (c, out) := by
  intro content out member c
  obtain ⟨item, inside, same⟩ := List.mem_map.mp member
  cases item with
  | line body => cases same
  | notice raw =>
    cases same
    obtain ⟨kind, payload, single⟩ := whole _ inside
    simp only [flaggedMachine, single.takeBytes, single.alone, Option.toList_some]

/-- Notifications put in between the lines of any stream, in any state: each is the one message it
    is on its own, at its place; what every other line gives, and where the codec ends, stays. -/
theorem notices_transparent (c : OvpnCodec) {items : List Item}
    (whole : ∀ item ∈ items, item.Whole) :
    let woven := items.map Item.woven
    let lines := linesOf woven
    let full := drain c (woven.map Woven.content).flatten
    let base := drain c lines.flatten
    (∃ outs, outs.length = lines.length ∧
      (∀ k, (outs.take k).flatten = (drain c (lines.take k).flatten).2.2) ∧
      base.2 = ([], outs.flatten) ∧ full.2 = ([], weave woven outs)) ∧
    full.1.expectedQueue = base.1.expectedQueue ∧ full.1.multiLineBuf = base.1.multiLineBuf ∧
    full.1.frameDecoder.clientNotification = base.1.frameDecoder.clientNotification ∧
    ∀ raw, .notice raw ∈ items → ∃ message, alone raw = [.ok message] := by
  intro woven lines full base
  obtain ⟨allWhole, linesWhole⟩ := woven_lines whole
  have fullFed : drained c _ = _ := drained_feed c allWhole
  have baseFed : drained c lines.flatten = _ := drained_feed c linesWhole
  rw [feed_woven flaggedMachine c (woven_notes whole)] at fullFed
  have codec : forget full.1 = forget base.1 :=
    (congrArg Prod.fst fullFed).trans (congrArg Prod.fst baseFed).symm
  obtain ⟨queue, block, -, frames⟩ := forget_fields codec
  refine ⟨⟨outputsByLine flaggedMachine c lines, outputsByLine_length _ _ _, ?_, ?_, ?_⟩, queue,
    block, by rw [frames], ?_⟩
  · intro k
    have first : ∀ l ∈ lines.take k, IsLine newline l := fun l member =>
      linesWhole l (List.mem_of_mem_take member)
    have fed := drained_feed c first
    rw [outputsByLine_take, ← feed_outputs]
    exact (congrArg (fun r => r.2.2) fed).symm
  · rw [← feed_outputs]
    exact congrArg Prod.snd baseFed
  · exact congrArg Prod.snd fullFed
  · intro raw member
    obtain ⟨kind, payload, single⟩ := whole _ member
    exact ⟨_, single.alone⟩

/-- A notification inside a `>CLIENT:` block whose lines stand inside a multi-line response. -/
theorem notices_transparent_hold :
    let c := { OvpnCodec.new with expectedQueue := [.multiLine], multiLineBuf := some [['a']] }
    let items := [Item.line (toUtf8 (lit ">CLIENT:CONNECT,1")), .notice (lit ">HOLD:0\r"),
      .line (toUtf8 (lit ">CLIENT:ENV,END")), .line (toUtf8 endMarker)]
    let full := drain c ((items.map Item.woven).map Woven.content).flatten
    alone (lit ">HOLD:0\r") = [.ok (.notification (.hold ['0']))] ∧
      full.2.2 = [.ok (.notification (.hold ['0'])),
        .ok (.notification (.client .connect 1 none ∅)), .ok (.multiLine [['a']])] ∧
      full.1.expectedQueue = (drain c (linesOf (items.map Item.woven)).flatten).1.expectedQueue := by
  intro c items
  have hold : SingleNotice (lit ">HOLD:0\r") (lit "HOLD") ['0'] :=
    ⟨by decide +kernel, by decide +kernel, by decide +kernel, by decide +kernel, by decide +kernel⟩
  have whole : ∀ item ∈ items, item.Whole := by
    simp only [items, List.forall_mem_cons, Item.Whole]
    exact ⟨by decide +kernel, ⟨_, _, hold⟩, by decide +kernel, by decide +kernel, by simp⟩
  exact ⟨by decide +kernel, by decide +kernel, (notices_transparent c whole).2.1⟩

end MgmtTransparency
