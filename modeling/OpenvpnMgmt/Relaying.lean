import OpenvpnMgmt.ClientIds
import OpenvpnMgmt.Delivery
import OpenvpnMgmt.NormalForms

/-!
Notifications rendered once more, as a relay between two connections would. What a decoder hands
out decodes, when it is rendered, to the same notification: over all runs, blocks included.
-/
namespace MgmtRelaying
open TextOps Utf8Text LineFraming MgmtEncoder MgmtValues MgmtMessage MgmtFrame MgmtNotifications
  MgmtCodec MgmtDraining MgmtServerStream MgmtMatching MgmtCalls MgmtClientBlocks
  MgmtNotificationRoundTrip MgmtDelivery MgmtNormalForms

/-! CLIENT blocks -/

/- The arguments of a CR_RESPONSE: the client's answer is the third of them. -/
def responseArgs (cid : U64) (kid : Option U64) (response : Text) : Text :=
  display cid ++ ',' :: ((kid.map display).getD [] ++ ',' :: response)

def relayed : Notification → List Text
  | .client (.crResponse response) cid kid env =>
    noticeLine (lit "CLIENT") (lit "CR_RESPONSE" ++ ',' :: responseArgs cid kid response) ::
      (env.toList.map envLine ++ [envEnd])
  | n => notificationToWire n

theorem parseClientEnv_response (cid : U64) (kid : Option U64) (response : Text) (env : Env) :
    parseClientEnv (lit "CR_RESPONSE") (responseArgs cid kid response) env =
      .notification (.client (.crResponse response) cid kid env) := by
  have plain : ',' ∉ (kid.map display).getD [] := by
    cases kid with
    | none => simp
    | some kid => exact comma_not_mem_display kid
  have pieces : splitn 3 (· == ',') (responseArgs cid kid response) =
      [display cid, (kid.map display).getD [], response] := by
    rw [responseArgs, splitn_comma 1 (comma_not_mem_display _), splitn_comma 0 plain]
    rfl
  have number : parseUInt 64 ((kid.map display).getD []) = kid := by
    cases kid with
    | none => simp [parseUInt]
    | some kid => exact parseUInt_display kid
  simp [parseClientEnv, pieces, parseUInt_display, number]

/-- What a decoder may hold of an open block. -/
structure Held (limit : AccumulationLimit) (accum : ClientEnvAccumulator) : Prop where
  comma : ',' ∉ accum.event
  other : accum.event ≠ lit "ADDRESS"
  event : '\n' ∉ accum.event
  args : WholeLine accum.args
  entries : ∀ k v : Text, accum.env[k]? = some v → '=' ∉ k ∧ '\n' ∉ k ∧ WholeLine v
  room : ∀ most, limit = .max most → accum.env.size ≤ most

theorem header_held {limit : AccumulationLimit} {line event args : Text} (whole : WholeLine line)
    (found : header line = some (event, args)) : Held limit ⟨event, args, ∅⟩ := by
  unfold header at found
  split at found
  · cases found
  · rename_i payload start
    have inside := whole_suffix whole ⟨_, (stripPrefix_eq_some.mp start).symm⟩
    cases split : splitOnce (· == ',') payload with
    | none =>
      simp only [split, Option.getD_none, Option.ite_none_left_eq_some, Option.some.injEq,
        Prod.mk.injEq] at found
      obtain ⟨other, rfl, rfl⟩ := found
      exact ⟨free_iff.mp (splitOnce_eq_none.mp split), other, inside.1, whole_nil, by simp,
        by simp⟩
    | some parts =>
      obtain ⟨front, back⟩ := parts
      simp only [split, Option.getD_some, Option.ite_none_left_eq_some, Option.some.injEq,
        Prod.mk.injEq] at found
      obtain ⟨other, rfl, rfl⟩ := found
      obtain ⟨plain, clean, last⟩ := splitOnce_parts inside split
      exact ⟨plain, other, clean, last, by simp, by simp⟩

theorem entryOf_plain {rest : Text} (whole : WholeLine rest) :
    '=' ∉ (entryOf rest).1 ∧ '\n' ∉ (entryOf rest).1 ∧ WholeLine (entryOf rest).2 := by
  unfold entryOf
  cases split : splitOnce (· == '=') rest with
  | none => exact ⟨free_iff.mp (splitOnce_eq_none.mp split), whole.1, whole_nil⟩
  | some parts => exact splitOnce_parts whole split

theorem entry_held {limit : AccumulationLimit} {accum : ClientEnvAccumulator} {rest : Text}
    (held : Held limit accum) (whole : WholeLine rest) (room : Room limit accum.env.size) :
    Held limit { accum with env := accum.env.insert (entryOf rest).1 (entryOf rest).2 } := by
  refine ⟨held.comma, held.other, held.event, held.args, ?_, ?_⟩
  · intro k v found
    rw [Std.ExtTreeMap.getElem?_insert] at found
    split at found
    · rename_i same
      have same := Std.LawfulEqCmp.eq_of_compare same
      cases found
      rw [← same]
      exact entryOf_plain whole
    · exact held.entries k v found
  · intro most same
    have fits := room most same
    have grown := Std.ExtTreeMap.size_insert_le (t := accum.env) (k := (entryOf rest).1)
      (v := (entryOf rest).2)
    simp only
    omega

/-! What is read back -/

structure Waiting (limit : AccumulationLimit) (c : OvpnCodec) : Prop where
  idle : c.frameDecoder.clientNotification = none
  banner : c.frameDecoder.seenInfo = true
  kept : c.frameDecoder.maxClientEnvEntries = limit

/- Its own rendering decodes to the notification, and leaves the codec as it found it. -/
def ReadsBack (limit : AccumulationLimit) (n : Notification) : Prop :=
  (∀ line ∈ relayed n, '\n' ∉ line) ∧ ∀ c, Waiting limit c →
    (drained c (wire (relayed n))).2 = ([], [.ok (.notification n)]) ∧
      Waiting limit (drained c (wire (relayed n))).1

theorem drained_frames (c : OvpnCodec) {lines : List Text}
    (whole : ∀ line ∈ lines, WholeLine line) :
    (drained c (wire lines)).1.frameDecoder =
      lines.foldl (fun d line => (d.takeLine line).1) c.frameDecoder := by
  induction lines generalizing c with
  | nil => rw [drained_nil]; rfl
  | cons line more ih =>
    have later : ∀ line ∈ more, WholeLine line := fun l member => whole l (by simp [member])
    rw [drained_whole c (whole line (by simp)), List.foldl_cons]
    rcases c.frameDecoder.takeLine line with ⟨d, _ | e | frame⟩
    · exact ih (c.withFrames d) later
    · exact ih (c.withFrames d).reset later
    · have kept := (takeFrame_keeps (c.withFrames d) frame).1
      have moved := ih ((c.withFrames d).takeFrame frame).1 later
      rw [kept] at moved
      exact moved

def Passing (kind payload : Text) : Prop :=
  kind = lit "CLIENT" → ((splitOnce (· == ',') payload).getD (payload, [])).1 = lit "ADDRESS"

theorem takeNotice_passing {d : FrameDecoder} {kind payload : Text} (banner : d.seenInfo = true)
    (passing : Passing kind payload) :
    d.takeNotice kind payload = (d, some (.ok (.notification kind payload))) := by
  unfold FrameDecoder.takeNotice
  by_cases info : kind = lit "INFO"
  · rw [if_pos info, if_pos banner]
  · by_cases client : kind = lit "CLIENT"
    · simp [passing client, client]
    · rw [if_neg info, if_neg client]

theorem notice_readsBack {limit : AccumulationLimit} {kind payload : Text} {n : Notification}
    (colon : ':' ∉ kind) (passing : Passing kind payload)
    (form : relayed n = [noticeLine kind payload]) (whole : WholeLine (noticeLine kind payload))
    (parsed : parseNotificationFromFrame kind payload = .notification n) : ReadsBack limit n := by
  have lines : ∀ line ∈ [noticeLine kind payload], WholeLine line := by simpa using whole
  unfold ReadsBack
  rw [form]
  refine ⟨by simpa using whole.1, ?_⟩
  intro c waiting
  have taken := takeNotice_passing waiting.banner passing
  have frames := drained_frames c lines
  rw [List.foldl_cons, List.foldl_nil, takeLine_takeNotice _ colon _ (Or.inl waiting.idle),
    taken] at frames
  constructor
  · rw [drained_notice c waiting.idle colon whole (by rw [taken]), parsed]
  · exact ⟨by rw [frames]; exact waiting.idle, by rw [frames]; exact waiting.banner,
      by rw [frames]; exact waiting.kept⟩

theorem frames_env {d : FrameDecoder} {accum : ClientEnvAccumulator}
    (opened : d.clientNotification = some accum) (entries : List (Text × Text)) :
    (entries.map envLine ++ [envEnd]).foldl (fun d line => (d.takeLine line).1) d =
      { d with clientNotification := none } := by
  induction entries generalizing d accum with
  | nil =>
    have shape : envEnd = noticeLine (lit "CLIENT") (lit "ENV," ++ lit "END") := by
      simp [envEnd, lit_eq]
    rw [List.map_nil, List.nil_append, List.foldl_cons, List.foldl_nil, shape, takeLine_env opened,
      takeEnv_end]
  | cons entry more ih =>
    have notEnd : entry.1 ++ '=' :: entry.2 ≠ lit "END" := by
      intro same
      have member : '=' ∈ entry.1 ++ '=' :: entry.2 := by simp
      rw [same] at member
      exact absurd member (by decide +kernel)
    have kept : ∃ next, (d.takeEnv accum (entry.1 ++ '=' :: entry.2)).1 =
        { d with clientNotification := some next } := by
      have taken := MgmtClientBlocks.takeEnv_entry d accum notEnd
      split at taken
      · exact ⟨_, by rw [taken]⟩
      · obtain ⟨most, taken⟩ := taken
        exact ⟨accum, by rw [taken, ← opened]⟩
    obtain ⟨next, kept⟩ := kept
    rw [List.map_cons, List.cons_append, List.foldl_cons, envLine, takeLine_env opened, kept]
    exact ih rfl

theorem block_readsBack {limit : AccumulationLimit} {accum : ClientEnvAccumulator}
    (held : Held limit accum) {n : Notification} {args : Text} (whole : WholeLine args)
    (form : relayed n = noticeLine (lit "CLIENT") (accum.event ++ ',' :: args) ::
      (accum.env.toList.map envLine ++ [envEnd]))
    (parsed : parseClientEnv accum.event args accum.env = .notification n) :
    ReadsBack limit n := by
  have clientClean : '\n' ∉ lit "CLIENT" := by decide +kernel
  have line : WholeLine (noticeLine (lit "CLIENT") (accum.event ++ ',' :: args)) :=
    whole_notice clientClean (comma_sep held.event whole)
  have plain : ∀ entry ∈ accum.env.toList,
      '=' ∉ entry.1 ∧ '\n' ∉ entry.1 ∧ WholeLine entry.2 := by
    intro entry member
    exact held.entries _ _ (Std.ExtTreeMap.mem_toList_iff_getElem?_eq_some.mp member)
  have entries : ∀ entry ∈ accum.env.toList, WholeLine (envLine entry) := by
    intro entry member
    obtain ⟨-, clean, value⟩ := plain entry member
    apply whole_notice clientClean
    rw [← List.append_assoc]
    apply whole_sep _ (by simp) value
    have word : '\n' ∉ lit "ENV," := by decide +kernel
    simp [word, clean]
  have last : WholeLine envEnd := by decide +kernel
  have lines : ∀ line ∈ relayed n, WholeLine line := by
    rw [form]
    intro l member
    rcases List.mem_cons.mp member with rfl | member
    · exact line
    · rcases List.mem_append.mp member with member | member
      · obtain ⟨entry, inside, rfl⟩ := List.mem_map.mp member
        exact entries entry inside
      · rw [List.mem_singleton.mp member]
        exact last
  refine ⟨fun l member => (lines l member).1, ?_⟩
  intro c waiting
  have header : c.frameDecoder.takeNotice (lit "CLIENT") (accum.event ++ ',' :: args) =
      (opening c.frameDecoder ⟨accum.event, args, ∅⟩, none) := by
    have pieces : splitOnce (· == ',') (accum.event ++ ',' :: args) = some (accum.event, args) :=
      splitOnce_comma held.comma args
    simp [FrameDecoder.takeNotice, pieces, held.other, opening]
  have first := takeLine_takeNotice c.frameDecoder client_plain (accum.event ++ ',' :: args)
    (Or.inl waiting.idle)
  rw [header] at first
  constructor
  · have block := drained_env (c.withFrames (opening c.frameDecoder ⟨accum.event, args, ∅⟩))
      accum.env.toList rfl
      (fun most same => by
        have fits := held.room most (waiting.kept ▸ same)
        simpa [Std.ExtTreeMap.length_toList] using fits)
      (fun entry member => (plain entry member).1) entries
    rw [form, drained_whole c line, first]
    simpa only [insertMany_toList, parsed] using block
  · have frames := drained_frames c lines
    rw [form, List.foldl_cons, first, frames_env rfl] at frames
    rw [form]
    exact ⟨by rw [frames], by rw [frames]; exact waiting.banner, by rw [frames]; exact waiting.kept⟩

theorem clientEvent_named {name : Text} (response : name ≠ lit "CR_RESPONSE")
    (other : name ≠ lit "ADDRESS") (comma : ',' ∉ name) :
    PlainEvent (orUnknown .unknown (ClientEvent.fromStr name)) ∧
      (orUnknown .unknown (ClientEvent.fromStr name)).toText = name := by
  have reads : Reads PlainEvent ClientEvent.toText name (ClientEvent.fromStr name) := by
    unfold ClientEvent.fromStr
    repeat apply reads_ite (by trivial) (by rfl)
    rfl
  cases same : ClientEvent.fromStr name with
  | error e =>
    obtain rfl : e = name := by rwa [same] at reads
    exact ⟨⟨same, response, other, comma⟩, rfl⟩
  | ok event => rwa [same] at reads

theorem relayed_plain {event : ClientEvent} (plain : PlainEvent event) (cid : U64)
    (kid : Option U64) (env : Env) :
    relayed (.client event cid kid env) =
      noticeLine (lit "CLIENT") (event.toText ++ ',' :: clientIds cid kid) ::
        (env.toList.map envLine ++ [envEnd]) := by
  cases event with
  | crResponse response => exact plain.elim
  | _ => rfl

theorem whole_clientIds (cid : U64) (kid : Option U64) : WholeLine (clientIds cid kid) := by
  cases kid with
  | none => simpa [clientIds] using whole_display cid
  | some kid => exact comma_sep (clean_display cid) (whole_display kid)

theorem held_readsBack {limit : AccumulationLimit} {accum : ClientEnvAccumulator}
    (held : Held limit accum) {n : Notification}
    (parsed : parseClientEnv accum.event accum.args accum.env = .notification n) :
    ReadsBack limit n := by
  unfold parseClientEnv at parsed
  simp only [OvpnMessage.notification.injEq] at parsed
  by_cases response : accum.event = lit "CR_RESPONSE"
  · rw [if_pos response] at parsed
    have tail : WholeLine ((splitn 3 (· == ',') accum.args)[2]?.getD []) :=
      optional_piece whole_nil fun piece found => whole_last held.args found rfl
    generalize (splitn 3 (· == ',') accum.args)[2]?.getD [] = answer at parsed tail
    subst parsed
    apply block_readsBack held _ (by rw [relayed, response])
    · rw [response]
      exact parseClientEnv_response _ _ _ _
    · apply comma_sep (clean_display _)
      apply comma_sep _ tail
      cases (splitn 3 (· == ',') accum.args)[1]?.bind (parseUInt 64) with
      | none => simp
      | some kid => simpa using clean_display kid
  · rw [if_neg response] at parsed
    obtain ⟨plain, spelled⟩ := clientEvent_named response held.other held.comma
    subst parsed
    apply block_readsBack held (whole_clientIds _ _)
    · rw [relayed_plain plain, spelled]
    · rw [← parseClientEnv_ids plain, spelled]

theorem relayed_single {n : Notification} {line : Text} (form : notificationToWire n = [line]) :
    relayed n = [line] := by
  cases n with
  | client event cid kid env => simp [notificationToWire] at form
  | _ => exact form

theorem address_readsBack {limit : AccumulationLimit} {payload : Text} (whole : WholeLine payload)
    (address : ((splitOnce (· == ',') payload).getD (payload, [])).1 = lit "ADDRESS") :
    ReadsBack limit (parseClientAddress payload) := by
  have tail : WholeLine ((splitOnce (· == ',') payload).getD (payload, [])).2 := by
    cases split : splitOnce (· == ',') payload with
    | none => exact whole_nil
    | some parts => exact (splitOnce_parts whole split).2.2
  unfold parseClientAddress
  generalize (splitOnce (· == ',') payload).getD (payload, []) = parts at address tail
  obtain ⟨event, args⟩ := parts
  simp only at address tail
  simp only [address, if_true]
  generalize ((splitn 3 (· == ',') args)[0]?.bind (parseUInt 64)).getD 0 = cid
  generalize decide ((splitn 3 (· == ',') args)[2]? = some (lit "1")) = primary
  have addr : ',' ∉ (splitn 3 (· == ',') args)[1]?.getD [] ∧
      '\n' ∉ (splitn 3 (· == ',') args)[1]?.getD [] :=
    optional_piece (p := fun piece => ',' ∉ piece ∧ '\n' ∉ piece) (by simp) fun piece found =>
      ⟨plain_piece found (by omega), clean_piece tail found⟩
  generalize (splitn 3 (· == ',') args)[1]?.getD [] = addr at addr
  apply notice_readsBack client_plain _ rfl
  · apply whole_notice (by decide +kernel)
    have flag : WholeLine (if primary then lit "1" else lit "0") := by
      cases primary <;> decide +kernel
    apply whole_append (by decide +kernel)
    · exact comma_sep (clean_display cid) (comma_sep addr.2 flag)
    · simp
  · rw [parseNotificationFromFrame, if_pos rfl, parseClientAddress_payload cid addr.1]
  · intro _
    rw [splitOnce_address]
    rfl

theorem frame_readsBack {limit : AccumulationLimit} {kind payload : Text} {n : Notification}
    (colon : ':' ∉ kind) (clean : '\n' ∉ kind) (whole : WholeLine payload)
    (passing : Passing kind payload)
    (parsed : parseNotificationFromFrame kind payload = .notification n) : ReadsBack limit n := by
  have line := whole_notice clean whole
  have simple : n = .simple kind payload → ReadsBack limit n := by
    intro same
    subst same
    exact notice_readsBack colon passing rfl line parsed
  by_cases client : kind = lit "CLIENT"
  · subst client
    rw [parseNotificationFromFrame, if_pos rfl] at parsed
    cases parsed
    exact address_readsBack whole (passing rfl)
  · by_cases info : kind = lit "INFO"
    · subst info
      rw [parseNotificationFromFrame, if_neg client, if_pos rfl] at parsed
      cases parsed
      exact notice_readsBack colon passing rfl line (by simp [parseNotificationFromFrame, lit_eq])
    · by_cases entry : kind = lit "PKCS11ID-ENTRY"
      · rw [parseNotificationFromFrame, if_neg client, if_neg info, if_pos entry] at parsed
        cases found : parsePkcs11idEntryNotif payload with
        | none =>
          rw [found] at parsed
          cases parsed
          exact simple rfl
        | some message =>
          rw [found] at parsed
          obtain ⟨_, _, _, rfl⟩ := MgmtPipelining.pkcs11_entry found
          cases parsed
      · rw [parseNotificationFromFrame, if_neg client, if_neg info, if_neg entry] at parsed
        cases typed : parseTyped kind payload with
        | none =>
          rw [typed] at parsed
          cases parsed
          exact simple rfl
        | some m =>
          rw [typed] at parsed
          cases parsed
          obtain ⟨again, form, tail, same⟩ := typed_settles kind payload m whole typed
          apply notice_readsBack colon (absurd · client) (relayed_single form)
            (whole_notice clean tail)
          rw [parseNotificationFromFrame, if_neg client, if_neg info, if_neg entry, same]
          rfl

/-! Lines -/

theorem lineText_whole {body : Bytes} {line : Text} (clean : newline ∉ body)
    (text : lineText (body ++ [newline]) = some line) : WholeLine line := by
  obtain ⟨t, read, rfl⟩ := Option.map_eq_some_iff.mp text
  have bytes := toUtf8_fromUtf8 read
  have nonempty : t ≠ [] := by
    rintro rfl
    simp at bytes
  obtain ⟨raw, last, rfl⟩ : ∃ raw last, t = raw ++ [last] :=
    ⟨t.dropLast, t.getLast nonempty, (List.dropLast_append_getLast nonempty).symm⟩
  rw [toUtf8_append, toUtf8_cons, toUtf8_nil, List.append_nil] at bytes
  have member : newline ∈ String.utf8EncodeChar last := by
    have ending := congrArg List.getLast? bytes
    rw [List.getLast?_append_of_ne_nil _ String.utf8EncodeChar_ne_nil,
      List.getLast?_concat] at ending
    exact List.mem_of_getLast? ending
  obtain ⟨code, single⟩ := ascii_byte member (by decide)
  obtain rfl : last = '\n' := Char.ext (UInt32.toNat_inj.mp code)
  rw [single] at bytes
  have front : toUtf8 raw = body := List.append_cancel_right bytes
  have plain : '\n' ∉ raw := by
    intro inside
    exact clean (front ▸ (ascii_mem_toUtf8 (c := '\n') (by decide) raw).mpr inside)
  rw [trimLineEnd_newline]
  constructor
  · exact fun inside => plain ((List.rdropWhile_prefix _ _).subset inside)
  · intro ending
    have nonempty : trimLineEnd raw ≠ [] := by
      intro empty
      simp [empty] at ending
    rw [List.getLast?_eq_some_getLast nonempty, Option.some.injEq] at ending
    have kept := List.rdropWhile_last_not _ raw nonempty
    apply kept
    rw [Bool.or_eq_true]
    exact Or.inl (decide_eq_true ending)

/-- Only a notice makes a notification, and a CLIENT notice only if it has an address. -/
theorem takeLine_notification {d after : FrameDecoder} {line kind payload : Text}
    (taken : d.takeLine line = (after, some (.ok (.notification kind payload)))) :
    line = noticeLine kind payload ∧ ':' ∉ kind ∧ Passing kind payload := by
  rcases takeLine_cases d line with ⟨accum, rest, -, -, same⟩ | ⟨outside, -⟩
  · rw [same, FrameDecoder.takeEnv] at taken
    split at taken
    · cases taken
    · simp only at taken
      split at taken
      · cases taken
      · cases taken
  · rcases MgmtClientIds.takeLine_outside outside with ⟨-, blank⟩ | same
    · rw [blank] at taken
      cases taken
    · rw [same] at taken
      by_cases notice : IsNotice line
      · obtain ⟨word, rest, clean, rfl⟩ := isNotice_iff.mp notice
        rw [classify_notice d clean, FrameDecoder.takeNotice] at taken
        by_cases info : word = lit "INFO"
        · rw [if_pos info] at taken
          split at taken
          · cases taken
            exact ⟨rfl, clean, fun client => by simp [info, lit_eq] at client⟩
          · cases taken
        · rw [if_neg info] at taken
          by_cases client : word = lit "CLIENT"
          · rw [if_pos client] at taken
            simp only at taken
            split at taken
            · rename_i address
              cases taken
              exact ⟨by rw [client], client_plain, fun _ => address⟩
            · cases taken
          · rw [if_neg client] at taken
            cases taken
            exact ⟨rfl, clean, fun same => absurd same client⟩
      · obtain ⟨frame, shape, other⟩ := classify_reply d notice
        rw [shape] at taken
        cases taken
        exact absurd trivial other

theorem takeFrame_notification {c : OvpnCodec} {frame : Frame} {n : Notification}
    (out : (c.takeFrame frame).2 = some (.ok (.notification n))) :
    (∃ kind payload, frame = .notification kind payload ∧
      parseNotificationFromFrame kind payload = .notification n) ∨
    ∃ event args env, frame = .clientEnv event args env ∧
      parseClientEnv event args env = .notification n := by
  cases frame with
  | notification kind payload =>
    simp only [OvpnCodec.takeFrame, Option.some.injEq, Except.ok.injEq] at out
    exact Or.inl ⟨kind, payload, rfl, out⟩
  | clientEnv event args env =>
    simp only [OvpnCodec.takeFrame, Option.some.injEq, Except.ok.injEq] at out
    exact Or.inr ⟨event, args, env, rfl, out⟩
  | line line =>
    simp only [OvpnCodec.takeFrame, OvpnCodec.takeLine] at out
    repeat' split at out
    all_goals cases out
  | endMarker =>
    simp only [OvpnCodec.takeFrame, OvpnCodec.takeEnd] at out
    repeat' split at out
    all_goals cases out
  | _ => cases out

/-! Runs -/

/-- A codec whose open block can be rendered again. -/
structure Settled (limit : AccumulationLimit) (c : OvpnCodec) : Prop where
  kept : c.frameDecoder.maxClientEnvEntries = limit
  opened : ∀ accum, c.frameDecoder.clientNotification = some accum → Held limit accum

def ReadsBackEvent (limit : AccumulationLimit) (event : Event) : Prop :=
  ∀ n, event = .ok (.notification n) → ReadsBack limit n

theorem takeBytes_frames (c : OvpnCodec) (line : Bytes) :
    (c.takeBytes line).1.frameDecoder = (c.frameDecoder.takeBytes line).1 := by
  unfold OvpnCodec.takeBytes
  rcases c.frameDecoder.takeBytes line with ⟨d, _ | e | frame⟩
  · rfl
  · rfl
  · exact (takeFrame_keeps (c.withFrames d) frame).1

theorem takeBytes_settled {limit : AccumulationLimit} {c : OvpnCodec} {body : Bytes}
    (clean : newline ∉ body) (settled : Settled limit c) :
    Settled limit (c.takeBytes (body ++ [newline])).1 := by
  refine ⟨?_, ?_⟩
  · rw [takeBytes_frames, takeBytes_limit]
    exact settled.kept
  · rw [takeBytes_frames]
    intro accum opened
    cases takeBytes_block c.frameDecoder (body ++ [newline]) with
    | drops _ closed => rw [closed] at opened; cases opened
    | closes _ _ _ closed => rw [closed] at opened; cases opened
    | grows text before inside _ room grown =>
      rw [grown] at opened
      cases opened
      have whole := lineText_whole clean text
      have tail := whole_suffix whole ⟨_, (stripPrefix_eq_some.mp inside).symm⟩
      exact entry_held (settled.opened _ before) tail (settled.kept ▸ room)
    | refuses _ _ _ _ _ same => exact settled.opened accum (same ▸ opened)
    | opens text _ first fresh =>
      rw [fresh] at opened
      cases opened
      exact header_held (lineText_whole clean text) first
    | passes _ _ _ same => exact settled.opened accum (same ▸ opened)

theorem takeBytes_readsBack {limit : AccumulationLimit} {c : OvpnCodec} {body : Bytes}
    (clean : newline ∉ body) (settled : Settled limit c) :
    ∀ event ∈ (c.takeBytes (body ++ [newline])).2, ReadsBackEvent limit event := by
  intro event member n same
  subst same
  have out : (c.takeBytes (body ++ [newline])).2 = some (.ok (.notification n)) := member
  cases takeBytes_block c.frameDecoder (body ++ [newline]) with
  | drops _ _ result =>
    rw [takeBytes_failed result] at out
    cases out
  | closes _ before _ _ result =>
    rw [takeBytes_framed result] at out
    rcases takeFrame_notification out with ⟨_, _, other, -⟩ | ⟨_, _, _, same, parsed⟩
    · cases other
    · cases same
      exact held_readsBack (settled.opened _ before) parsed
  | grows _ _ _ _ _ _ silent =>
    rw [takeBytes_silent silent] at out
    cases out
  | refuses _ _ _ _ _ _ result =>
    rw [takeBytes_failed result] at out
    cases out
  | opens _ _ _ _ silent =>
    rw [takeBytes_silent silent] at out
    cases out
  | @passes line _ text _ _ _ result other =>
    rw [takeBytes_framed result] at out
    rcases takeFrame_notification out with ⟨kind, payload, same, parsed⟩ | ⟨_, _, _, same, -⟩
    · subst same
      have whole := lineText_whole clean text
      rw [takeBytes_lineText _ text] at result
      obtain ⟨rfl, colon, passing⟩ := takeLine_notification (Prod.ext rfl result)
      have front : '\n' ∉ kind := by
        intro inside
        exact whole.1 (by simp [noticeLine, inside])
      exact frame_readsBack colon front (whole_suffix whole ⟨'>' :: kind ++ [':'], by
        simp [noticeLine]⟩) passing parsed
    · subst same
      exact absurd trivial other

theorem drained_append (c : OvpnCodec) {front : List Text} (clean : ∀ line ∈ front, '\n' ∉ line)
    (back : List Text) :
    drained c (wire (front ++ back)) =
      report (drained c (wire front)).2.2 (drained (drained c (wire front)).1 (wire back)) := by
  induction front generalizing c with
  | nil =>
    rw [drained_nil, List.nil_append, drained_forget]
    rfl
  | cons line more ih =>
    have first := clean line (by simp)
    have later := ih (c.takeBytes (toUtf8 line ++ [newline])).1 fun l member =>
      clean l (by simp [member])
    rw [List.cons_append, drained_raw c first, drained_raw c first, later]
    simp [report]

theorem all_readBack {limit : AccumulationLimit} {ns : List Notification}
    (each : ∀ n ∈ ns, ReadsBack limit n) {c : OvpnCodec} (waiting : Waiting limit c) :
    (drained c (wire (ns.flatMap relayed))).2 = ([], ns.map fun n => .ok (.notification n)) := by
  induction ns generalizing c with
  | nil => rw [List.flatMap_nil, drained_nil]; rfl
  | cons n more ih =>
    obtain ⟨clean, back⟩ := each n (by simp)
    obtain ⟨out, next⟩ := back c waiting
    have later := ih (fun m member => each m (by simp [member])) next
    rw [List.flatMap_cons, drained_append c clean, out]
    simp [report, later]

/-- Whatever a connection brings, in whatever pieces and with whatever errors: the notifications
    decoded from it, rendered one after the other, decode to themselves and nothing else, in a codec
    with the same limit that has read its banner and has no CLIENT block open. -/
theorem notifications_relayed (engine : Bytes → Text) (limit envLimit : AccumulationLimit)
    (mode : EncoderMode) (steps : List Step) {c : OvpnCodec} (waiting : Waiting envLimit c) :
    let start : Endpoint := ⟨((OvpnCodec.new.withMaxMultiLineLines limit).withMaxClientEnvEntries
      envLimit).withEncoderMode mode, [], []⟩
    let notes := notesOf (run engine start steps).2
    (drain c (wire (notes.flatMap relayed))).2 =
      ([], notes.map fun n => .ok (.notification n)) := by
  intro start notes
  have settled : Settled envLimit start.codec := ⟨rfl, by rintro _ ⟨⟩⟩
  have kept := @run_lines_invariant (Settled envLimit) (ReadsBackEvent envLimit)
    (fun same holds => by
      have frames := (forget_fields same).2.2.2
      exact ⟨frames ▸ holds.kept, frames ▸ holds.opened⟩)
    (fun clean holds => ⟨takeBytes_settled clean holds, takeBytes_readsBack clean holds⟩)
    (by rintro _ ⟨⟩) (fun _ holds => ⟨holds.kept, holds.opened⟩) engine _ settled steps
  have each : ∀ n ∈ notes, ReadsBack envLimit n := by
    intro n member
    obtain ⟨event, inside, same⟩ := List.mem_filterMap.mp member
    apply kept.2 event inside n
    unfold noteOf at same
    split at same
    · cases same
      rfl
    · cases same
  exact all_readBack each waiting

def greeted : OvpnCodec := (drain OvpnCodec.new (wire [lit ">INFO:OpenVPN Management Interface"])).1

def clientAnswer : List Step :=
  [.receive (wire [lit ">CLIENT:CR_RESPONSE,7,,secret", lit ">CLIENT:ENV,a", lit ">CLIENT:ENV,a=2",
    lit ">CLIENT:ENV,END", lit ">REMOTE:vpn,1194,UDP"]), .poll, .poll]

theorem notifications_relayed_answer :
    let start : Endpoint := ⟨((OvpnCodec.new.withMaxMultiLineLines (.max 9)).withMaxClientEnvEntries
      .unlimited).withEncoderMode .strict, [], []⟩
    let notes := notesOf (run (fun _ => []) start clientAnswer).2
    notes.flatMap relayed = [lit ">CLIENT:CR_RESPONSE,7,,secret", lit ">CLIENT:ENV,a=2",
        lit ">CLIENT:ENV,END", lit ">REMOTE:vpn,1194,udp"] ∧
      (drain greeted (wire (notes.flatMap relayed))).2 =
        ([], notes.map fun n => .ok (.notification n)) := by
  intro start notes
  refine ⟨by decide +kernel, ?_⟩
  apply notifications_relayed (fun _ => []) (.max 9) .unlimited .strict clientAnswer
  exact ⟨by decide +kernel, by decide +kernel, by decide +kernel⟩

end MgmtRelaying
