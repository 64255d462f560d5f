import OpenvpnMgmt.Limits

/-!
The queue of expected kinds against the commands themselves. An audit runs beside the endpoint and
remembers which command each entry of the queue stands for; a call of `decode` is accounted for
when an answer takes one entry away and everything else that may come unasked takes none.
-/
namespace MgmtAccounting
open TextOps Utf8Text LineFraming MgmtEncoder MgmtCommand MgmtMessage MgmtFrame MgmtNotifications
  MgmtCodec MgmtDraining MgmtServerStream MgmtMatching MgmtPipelining MgmtBlocks MgmtCalls
  MgmtClientBlocks

/-! What a call does to the queue -/

def pops : OvpnMessage → Bool
  | .success _ | .error _ | .multiLine _ => true
  | _ => false

def isUnexpected : OvpnMessage → Bool
  | .unrecognized _ .unexpectedLine => true
  | _ => false

inductive QueueStep : List ResponseKind → List ResponseKind → Option Event → Prop
  | silent (queue : List ResponseKind) : QueueStep queue queue none
  | fails {queue after : List ResponseKind} (left : after = queue ∨ after = []) (e : IoError) :
    QueueStep queue after (some (.error e))
  | answers (queue : List ResponseKind) {message : OvpnMessage} (popped : pops message) :
    QueueStep queue queue.tail (some (.ok message))
  | passes (queue : List ResponseKind) {message : OvpnMessage} (kept : ¬ pops message)
    (known : ¬ isUnexpected message) : QueueStep queue queue (some (.ok message))
  | unexpected {queue after : List ResponseKind} {message : OvpnMessage}
    (left : after = queue ∨ after = queue.tail) (unknown : isUnexpected message) :
    QueueStep queue after (some (.ok message))

theorem queueStep_silent {queue after : List ResponseKind} (step : QueueStep queue after none) :
    after = queue := by
  cases step
  rfl

theorem queueStep_ok {queue after : List ResponseKind} {message : OvpnMessage}
    (step : QueueStep queue after (some (.ok message))) :
    (pops message → after = queue.tail) ∧
      (¬ pops message → ¬ isUnexpected message → after = queue) := by
  cases step with
  | answers popped => exact ⟨fun _ => rfl, fun kept => absurd popped kept⟩
  | passes kept => exact ⟨fun popped => absurd popped kept, fun _ _ => rfl⟩
  | unexpected _ unknown =>
    refine ⟨fun popped => ?_, fun _ known => absurd unknown known⟩
    cases message <;> simp_all [pops, isUnexpected]

theorem queueStep_drop {queue after : List ResponseKind} {out : Option Event}
    (step : QueueStep queue after out) : after = queue.drop (queue.length - after.length) := by
  have whole : queue = queue.drop (queue.length - queue.length) := by simp
  have shorter : queue.tail = queue.drop (queue.length - queue.tail.length) := by
    cases queue <;> simp
  cases step with
  | silent | passes => exact whole
  | answers => exact shorter
  | fails left =>
    rcases left with rfl | rfl
    · exact whole
    · simp
  | unexpected left =>
    rcases left with rfl | rfl
    · exact whole
    · exact shorter

theorem takeLine_queue (c : OvpnCodec) (line : Text) :
    QueueStep c.expectedQueue (c.takeLine line).1.expectedQueue (c.takeLine line).2 := by
  unfold OvpnCodec.takeLine
  split
  · exact .silent _
  · split
    · exact .passes _ (by simp [pops]) (by simp [isUnexpected])
    · cases c.multiLineBuf with
      | some buf =>
        cases c.maxMultiLineLines with
        | unlimited => exact .silent _
        | max most =>
          simp only
          split
          · exact .fails (Or.inl rfl) _
          · exact .silent _
      | none =>
        simp only
        split
        · exact .silent _
        · exact .unexpected (Or.inr rfl) rfl
        · exact .unexpected (Or.inr rfl) rfl

theorem takeEnd_queue (c : OvpnCodec) :
    QueueStep c.expectedQueue c.takeEnd.1.expectedQueue c.takeEnd.2 := by
  unfold OvpnCodec.takeEnd
  split
  · exact .answers _ rfl
  · split
    · exact .answers _ rfl
    · exact .unexpected (Or.inl rfl) rfl

theorem notification_passes (kind payload : Text) :
    ¬ pops (parseNotificationFromFrame kind payload) ∧
      ¬ isUnexpected (parseNotificationFromFrame kind payload) := by
  unfold parseNotificationFromFrame
  split
  · exact ⟨by simp [pops], by simp [isUnexpected]⟩
  · split
    · exact ⟨by simp [pops], by simp [isUnexpected]⟩
    · split
      · cases parsed : parsePkcs11idEntryNotif payload with
        | none => exact ⟨by simp [pops], by simp [isUnexpected]⟩
        | some message =>
          obtain ⟨_, _, _, rfl⟩ := pkcs11_entry parsed
          exact ⟨by simp [pops], by simp [isUnexpected]⟩
      · exact ⟨by simp [pops], by simp [isUnexpected]⟩

theorem takeFrame_queue (c : OvpnCodec) (frame : Frame) :
    QueueStep c.expectedQueue (c.takeFrame frame).1.expectedQueue (c.takeFrame frame).2 := by
  cases frame with
  | success | error => exact .answers _ rfl
  | passwordPrompt | info | clientEnv =>
    exact .passes _ (by simp [pops, parseClientEnv]) (by simp [isUnexpected, parseClientEnv])
  | notification kind payload =>
    exact .passes _ (notification_passes kind payload).1 (notification_passes kind payload).2
  | endMarker => exact takeEnd_queue c
  | line text => exact takeLine_queue c text

theorem takeBytes_queue (c : OvpnCodec) (lineBytes : Bytes) :
    QueueStep c.expectedQueue (c.takeBytes lineBytes).1.expectedQueue (c.takeBytes lineBytes).2 := by
  rw [OvpnCodec.takeBytes]
  rcases c.frameDecoder.takeBytes lineBytes with ⟨d, _ | e | frame⟩
  · exact .silent _
  · exact .fails (Or.inr rfl) e
  · exact takeFrame_queue (c.withFrames d) frame

theorem call_queue {c after : OvpnCodec} {src rest : Bytes}
    {out : Except IoError (Option OvpnMessage)} (call : Call c src after rest out) :
    QueueStep c.expectedQueue after.expectedQueue (events out).head? := by
  induction call with
  | quiet => exact .silent _
  | prompt => exact .passes _ (by simp [pops]) (by simp [isUnexpected])
  | @result c _ body _ out _ line =>
    have taken := takeBytes_queue c (body ++ [newline])
    rw [line] at taken
    cases out <;> exact taken
  | @silent c _ _ body _ _ _ _ line more ih =>
    have taken := takeBytes_queue c (body ++ [newline])
    rw [line] at taken
    rwa [← queueStep_silent taken]

/-! Entries of a token -/

def IsEntryLine (lineBytes : Bytes) : Prop :=
  ∃ payload, lineText lineBytes = some (noticeLine (lit "PKCS11ID-ENTRY") payload) ∧
    (parsePkcs11idEntryNotif payload).isSome

def isEntry : OvpnMessage → Bool
  | .pkcs11IdEntry _ _ _ => true
  | _ => false

theorem takeLine_notification {d after : FrameDecoder} {line kind payload : Text}
    (taken : d.takeLine line = (after, some (.ok (.notification kind payload)))) :
    line = noticeLine kind payload := by
  unfold FrameDecoder.takeLine at taken
  split at taken
  · cases taken
  · split at taken
    · unfold FrameDecoder.takeEnv at taken
      split at taken
      · cases taken
      · simp only at taken
        split at taken <;> cases taken
    · by_cases notice : IsNotice line
      · obtain ⟨found, rest, clean, rfl⟩ := isNotice_iff.mp notice
        rw [classify_notice d clean] at taken
        unfold FrameDecoder.takeNotice at taken
        split at taken
        · split at taken <;> cases taken
          rfl
        · split at taken
          · rename_i client
            simp only at taken
            split at taken <;> cases taken
            rw [client]
          · cases taken
            rfl
      · obtain ⟨frame, same, other⟩ := classify_reply d notice
        rw [same] at taken
        cases taken
        exact absurd trivial other

theorem parse_entry {kind payload : Text} (entry : isEntry (parseNotificationFromFrame kind payload)) :
    kind = lit "PKCS11ID-ENTRY" ∧ (parsePkcs11idEntryNotif payload).isSome := by
  unfold parseNotificationFromFrame at entry
  split at entry
  · cases entry
  · split at entry
    · cases entry
    · split at entry
      · rename_i same
        cases parsed : parsePkcs11idEntryNotif payload with
        | none => simp [parsed, isEntry] at entry
        | some _ => exact ⟨same, rfl⟩
      · cases entry

theorem takeLine_notEntry {c : OvpnCodec} {line : Text} {message : OvpnMessage}
    (result : (c.takeLine line).2 = some (.ok message)) : ¬ isEntry message := by
  unfold OvpnCodec.takeLine at result
  repeat' split at result
  all_goals
    cases result
    try simp [isEntry]

theorem takeEnd_notEntry {c : OvpnCodec} {message : OvpnMessage}
    (result : c.takeEnd.2 = some (.ok message)) : ¬ isEntry message := by
  unfold OvpnCodec.takeEnd at result
  repeat' split at result
  all_goals
    cases result
    simp [isEntry]

theorem takeBytes_entry (c : OvpnCodec) (lineBytes : Bytes) :
    (∃ message, (c.takeBytes lineBytes).2 = some (.ok message) ∧ isEntry message) ↔
      IsEntryLine lineBytes := by
  constructor
  · rintro ⟨message, result, entry⟩
    cases text : lineText lineBytes with
    | none => simp [OvpnCodec.takeBytes, takeBytes_unreadable c.frameDecoder text] at result
    | some line =>
      rw [OvpnCodec.takeBytes, takeBytes_lineText c.frameDecoder text] at result
      rcases taken : c.frameDecoder.takeLine line with ⟨d, _ | e | frame⟩
      · simp [taken] at result
      · simp [taken] at result
      · rw [taken] at result
        cases frame with
        | notification kind payload =>
          cases result
          obtain ⟨rfl, parsed⟩ := parse_entry entry
          exact ⟨payload, by rw [text, takeLine_notification taken], parsed⟩
        | endMarker => exact absurd entry (takeEnd_notEntry result)
        | line other => exact absurd entry (takeLine_notEntry result)
        | _ =>
          cases result
          cases entry
  · rintro ⟨payload, text, parsed⟩
    obtain ⟨message, found⟩ := Option.isSome_iff_exists.mp parsed
    obtain ⟨index, id, blob, rfl⟩ := pkcs11_entry found
    refine ⟨.pkcs11IdEntry index id blob, ?_, rfl⟩
    have info : lit "PKCS11ID-ENTRY" ≠ lit "INFO" := by simp [lit_eq]
    have client : lit "PKCS11ID-ENTRY" ≠ lit "CLIENT" := by simp [lit_eq]
    have frame : c.frameDecoder.takeNotice (lit "PKCS11ID-ENTRY") payload =
        (c.frameDecoder, some (.ok (.notification (lit "PKCS11ID-ENTRY") payload))) := by
      rw [FrameDecoder.takeNotice, if_neg info, if_neg client]
    have parsed : parseNotificationFromFrame (lit "PKCS11ID-ENTRY") payload =
        .pkcs11IdEntry index id blob := by
      rw [parseNotificationFromFrame, if_neg client, if_neg info, if_pos rfl, found,
        Option.getD_some]
    rw [OvpnCodec.takeBytes, takeBytes_lineText c.frameDecoder text,
      takeLine_takeNotice _ (by simp [lit_eq]) _ (Or.inr client), frame]
    simp only [OvpnCodec.takeFrame, parsed]

theorem call_entry {c after : OvpnCodec} {src rest : Bytes}
    {out : Except IoError (Option OvpnMessage)} (call : Call c src after rest out) :
    (∃ message, out = .ok (some message) ∧ isEntry message) ↔
      ∃ t ∈ taken c src, IsEntryLine t.2 := by
  induction call with
  | quiet unfinished => simp [taken_open _ unfinished]
  | prompt unfinished => simp [taken_open _ unfinished, isEntry]
  | @result c _ body rest out clean line =>
    have entry := takeBytes_entry c (body ++ [newline])
    rw [line] at entry
    rw [taken_line c clean, line]
    cases out <;> simpa [Except.map] using entry
  | @silent c _ _ body _ _ _ clean line more ih =>
    have entry := takeBytes_entry c (body ++ [newline])
    rw [line] at entry
    have other : ¬ IsEntryLine (body ++ [newline]) := by simp [← entry]
    rw [taken_line c clean, line, ih]
    simp [other]

/-! The audit -/

/-- An endpoint, and the commands its queue stands for. -/
structure Audit where
  endpoint : Endpoint
  pending : List OvpnCommand

def isAnswer (pending : List OvpnCommand) : OvpnMessage → Bool
  | .success _ | .error _ | .multiLine _ => true
  | .pkcs11IdEntry _ _ _ =>
    match pending.head? with
    | some (.pkcs11IdGet _) => true
    | _ => false
  | _ => false

def answers (pending : List OvpnCommand) : Event → Bool
  | .ok message => isAnswer pending message
  | .error _ => false

theorem countP_answers (pending : List OvpnCommand) (message : OvpnMessage) :
    [Except.ok message].countP (answers pending) = (isAnswer pending message).toNat := by
  have same : answers pending (.ok message) = isAnswer pending message := rfl
  rw [List.countP_singleton, same]
  cases isAnswer pending message <;> rfl

def isUnasked : OvpnMessage → Bool
  | .notification _ | .info _ | .passwordPrompt | .unrecognized _ .malformedNotification => true
  | _ => false

section Auditing
variable (engine : Bytes → Text)

/- A command is pending once it is encoded; whatever leaves the queue is pending no more. -/
def auditStep (a : Audit) (s : Step) : Audit :=
  let next := (step engine a.endpoint s).1
  match s with
  | .encode cmd => ⟨next, a.pending ++ [cmd]⟩
  | .receive _ => ⟨next, a.pending⟩
  | .poll => ⟨next, a.pending.drop
      (a.endpoint.codec.expectedQueue.length - next.codec.expectedQueue.length)⟩

def audit (a : Audit) (steps : List Step) : Audit := steps.foldl (auditStep engine) a

def answered : Audit → List Step → Nat
  | _, [] => 0
  | a, s :: more =>
    (step engine a.endpoint s).2.countP (answers a.pending) + answered (auditStep engine a s) more

end Auditing

def Matches (a : Audit) : Prop :=
  a.pending.map (·.expectedResponse) = a.endpoint.codec.expectedQueue

/- The next call of `decode` takes one entry away for an answer and none for what came unasked. -/
def Accounted (a : Audit) : Prop :=
  let before := a.endpoint.codec
  let (after, _, out) := before.decode a.endpoint.buffer
  ∀ message, out = .ok (some message) → before.expectedQueue ≠ [] →
    (isAnswer a.pending message → after.expectedQueue = before.expectedQueue.tail) ∧
      (isUnasked message → after.expectedQueue = before.expectedQueue)

def AsksEntry (pending : List OvpnCommand) : Prop := ∃ index, pending.head? = some (.pkcs11IdGet index)

/- The next call of `decode` meets no entry line while the oldest command asks for one. -/
def EntryUnclaimed (a : Audit) : Prop :=
  AsksEntry a.pending → ∀ t ∈ taken a.endpoint.codec a.endpoint.buffer, ¬ IsEntryLine t.2

theorem isAnswer_pops {pending : List OvpnCommand} {message : OvpnMessage} :
    isAnswer pending message ↔ pops message ∨ isEntry message ∧ AsksEntry pending := by
  cases message with
  | pkcs11IdEntry index id blob =>
    simp only [isAnswer, pops, isEntry, AsksEntry]
    cases pending.head? with
    | none => simp
    | some cmd => cases cmd <;> simp
  | _ => simp [isAnswer, pops, isEntry]

theorem isUnasked_kept {message : OvpnMessage} (unasked : isUnasked message) :
    ¬ pops message ∧ ¬ isUnexpected message := by
  cases message with
  | unrecognized text kind => cases kind <;> simp_all [isUnasked, pops, isUnexpected]
  | _ => simp_all [isUnasked, pops, isUnexpected]

theorem isEntry_kept {message : OvpnMessage} (entry : isEntry message) :
    ¬ pops message ∧ ¬ isUnexpected message := by
  cases message with
  | pkcs11IdEntry => simp [pops, isUnexpected]
  | _ => cases entry

theorem polled_queue (e : Endpoint) :
    QueueStep e.codec.expectedQueue (e.codec.decode e.buffer).1.expectedQueue
      (events (e.codec.decode e.buffer).2.2).head? := by
  have kept := call_queue (decode_call e.codec e.buffer)
  exact kept

theorem polled_entry (e : Endpoint) :
    (∃ message, (e.codec.decode e.buffer).2.2 = .ok (some message) ∧ isEntry message) ↔
      ∃ t ∈ taken e.codec e.buffer, IsEntryLine t.2 :=
  call_entry (decode_call e.codec e.buffer)

theorem accounted_iff {a : Audit} (stands : Matches a) : Accounted a ↔ EntryUnclaimed a := by
  have queue := polled_queue a.endpoint
  have entry := polled_entry a.endpoint
  rw [Accounted, EntryUnclaimed]
  rcases step : a.endpoint.codec.decode a.endpoint.buffer with ⟨after, rest, out⟩
  rw [step] at queue entry
  simp only at queue entry ⊢
  constructor
  · intro accounted asks t member line
    obtain ⟨message, rfl, isEntry⟩ := entry.mpr ⟨t, member, line⟩
    obtain ⟨index, front⟩ := asks
    have nonempty : a.endpoint.codec.expectedQueue ≠ [] := by
      rw [← stands]
      intro empty
      simp [List.map_eq_nil_iff.mp empty] at front
    have popped := (accounted message rfl nonempty).1 (isAnswer_pops.mpr (Or.inr ⟨isEntry, index, front⟩))
    obtain ⟨kept, known⟩ := isEntry_kept isEntry
    have same := (queueStep_ok queue).2 kept known
    have lengths := congrArg List.length (same.symm.trans popped)
    have := List.length_pos_iff.mpr nonempty
    simp only [List.length_tail] at lengths
    omega
  · rintro unclaimed message rfl nonempty
    have effect := queueStep_ok queue
    refine ⟨fun answer => ?_, fun unasked => ?_⟩
    · rcases isAnswer_pops.mp answer with popped | ⟨isEntry, asks⟩
      · exact effect.1 popped
      · obtain ⟨t, member, line⟩ := entry.mp ⟨message, rfl, isEntry⟩
        exact absurd line (unclaimed asks t member)
    · obtain ⟨kept, known⟩ := isUnasked_kept unasked
      exact effect.2 kept known

/-! Runs -/

section Runs
variable (engine : Bytes → Text)

/-- The audit only watches. -/
theorem audit_endpoint (a : Audit) (steps : List Step) :
    (audit engine a steps).endpoint = (run engine a.endpoint steps).1 := by
  induction steps generalizing a with
  | nil => rfl
  | cons s more ih =>
    have next : (auditStep engine a s).endpoint = (step engine a.endpoint s).1 := by
      cases s <;> rfl
    rw [audit, List.foldl_cons]
    exact (ih _).trans (by rw [next]; rfl)

theorem auditStep_matches {a : Audit} (stands : Matches a) (s : Step) :
    Matches (auditStep engine a s) := by
  cases s with
  | encode cmd =>
    rw [Matches] at stands
    simp [Matches, auditStep, step, encode_codec, stands]
  | receive chunk => exact stands
  | poll =>
    have left := queueStep_drop (polled_queue a.endpoint)
    rw [Matches] at stands
    simp only [Matches, auditStep, step, List.map_drop, stands]
    exact left.symm

theorem audit_matches {a : Audit} (stands : Matches a) (steps : List Step) :
    Matches (audit engine a steps) := by
  induction steps generalizing a with
  | nil => exact stands
  | cons s more ih => exact ih (auditStep_matches engine stands s)

def Ordinary (event : Event) : Prop := ∃ message, event = .ok message ∧ ¬ isUnexpected message

theorem auditStep_balance {a : Audit} {s : Step} (unclaimed : s = .poll → EntryUnclaimed a)
    (ordinary : ∀ event ∈ (step engine a.endpoint s).2, Ordinary event)
    (inTurn : (step engine a.endpoint s).2.countP (answers a.pending) ≤
      a.endpoint.codec.expectedQueue.length + (commands [s]).length) :
    (step engine a.endpoint s).1.codec.expectedQueue.length +
        (step engine a.endpoint s).2.countP (answers a.pending) =
      a.endpoint.codec.expectedQueue.length + (commands [s]).length := by
  cases s with
  | encode cmd => simp [step, encode_codec, commands]
  | receive chunk => simp [step, commands]
  | poll =>
    have queue := polled_queue a.endpoint
    have entry := polled_entry a.endpoint
    simp only [step, commands, List.length_nil, Nat.add_zero] at ordinary inTurn ⊢
    rcases step : a.endpoint.codec.decode a.endpoint.buffer with ⟨after, rest, e | _ | message⟩
    · obtain ⟨_, wrong, -⟩ := ordinary (.error e) (by simp [step, events])
      cases wrong
    · rw [step] at queue
      have same : after.expectedQueue = _ := queueStep_silent queue
      simp [events, same]
    · rw [step] at queue inTurn entry
      obtain ⟨_, ⟨⟩, known⟩ := ordinary (.ok message) (by simp [step, events])
      obtain ⟨popped, kept⟩ := queueStep_ok queue
      simp only [events, countP_answers] at inTurn ⊢
      by_cases pop : pops message
      · have answer : isAnswer a.pending message := isAnswer_pops.mpr (Or.inl pop)
        rw [answer, Bool.toNat_true] at inTurn ⊢
        rw [popped pop, List.length_tail]
        omega
      · have other : ¬ isAnswer a.pending message := by
          rw [isAnswer_pops, not_or]
          refine ⟨pop, ?_⟩
          rintro ⟨isEntry, asks⟩
          obtain ⟨t, member, line⟩ := entry.mp ⟨message, rfl, isEntry⟩
          exact unclaimed rfl asks t member line
        rw [kept pop known, Bool.eq_false_iff.mpr other, Bool.toNat_false, Nat.add_zero]

theorem commands_cons (s : Step) (more : List Step) :
    (commands (s :: more)).length = (commands [s]).length + (commands more).length := by
  cases s with
  | encode cmd => simp [commands, Nat.add_comm]
  | receive | poll => simp [commands]

/-- A run in which every answer finds its entry: commands less answers are pending. -/
theorem audit_balance {a : Audit} {steps : List Step}
    (unclaimed : ∀ earlier, earlier ++ [.poll] <+: steps → EntryUnclaimed (audit engine a earlier))
    (ordinary : ∀ event ∈ (run engine a.endpoint steps).2, Ordinary event)
    (inTurn : ∀ earlier, earlier <+: steps →
      answered engine a earlier ≤ a.endpoint.codec.expectedQueue.length + (commands earlier).length) :
    (run engine a.endpoint steps).1.codec.expectedQueue.length + answered engine a steps =
      a.endpoint.codec.expectedQueue.length + (commands steps).length := by
  induction steps generalizing a with
  | nil => simp [run, answered, commands]
  | cons s more ih =>
    have endpoint : (auditStep engine a s).endpoint = (step engine a.endpoint s).1 := by
      cases s <;> rfl
    simp only [run, List.mem_append] at ordinary
    have first := auditStep_balance engine
      (fun here => by
        subst here
        exact unclaimed [] (by simp))
      (fun event member => ordinary event (Or.inl member))
      (by simpa [answered] using inTurn [s] (by simp))
    rw [← endpoint] at first ordinary
    have later := ih (a := auditStep engine a s)
      (fun earlier front => unclaimed (s :: earlier) (by simpa using front))
      (fun event member => ordinary event (Or.inr member))
      (fun earlier front => by
        have bound := inTurn (s :: earlier) (by simpa using front)
        rw [answered, commands_cons] at bound
        omega)
    rw [commands_cons]
    simp only [run, answered]
    rw [← endpoint]
    omega

end Runs

end MgmtAccounting
