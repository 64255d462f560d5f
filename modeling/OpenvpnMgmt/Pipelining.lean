import OpenvpnMgmt.Matching

/-!
Pipelined commands. A server that answers every command in order is in step with the queue, so
each command gets its own answer.
-/
namespace MgmtPipelining
open TextOps Utf8Text LineFraming MgmtEncoder MgmtValues MgmtCommand MgmtMessage MgmtFrame
  MgmtNotifications MgmtCodec MgmtDraining MgmtServerStream MgmtMatching

def isResponse : OvpnMessage → Bool
  | .success _ | .error _ | .multiLine _ => true
  | _ => false

def isNotification : OvpnMessage → Bool
  | .notification _ | .info _ | .pkcs11IdEntry _ _ _ => true
  | _ => false

/- The answers that replies spell, with a block already open or not. -/
def answerMessages : Option (List Text) → List Text → List OvpnMessage
  | _, [] => []
  | block, line :: more =>
    if line = endMarker then .multiLine (block.getD []) :: answerMessages none more
    else if IsSingle line then (frameMessage (singleFrame line)).toList ++ answerMessages block more
    else answerMessages (some (block.getD [] ++ [line])) more

/-! Answers as replies -/

theorem within_room {limit : AccumulationLimit} {block : Option (List Text)} {line : Text}
    {more : List Text}
    (fits : ∀ most, limit = .max most → (block.getD []).length + (line :: more).length ≤ most) :
    HasRoom limit block := by
  rintro buf most rfl most_eq
  have := fits most most_eq
  simp at this
  omega

theorem follows_block {limit : AccumulationLimit} {lines more : List Text}
    {kinds kindsLeft : List ResponseKind} {blockLeft : Option (List Text)}
    (plain : ∀ line ∈ lines, IsBody line)
    (rest : Follows limit none kinds more blockLeft kindsLeft) (block : Option (List Text))
    (fits : ∀ most, limit = .max most → (block.getD []).length + lines.length ≤ most) :
    Follows limit block (.multiLine :: kinds) (lines ++ endMarker :: more) blockLeft kindsLeft := by
  induction lines generalizing block with
  | nil => exact .blockEnd rest
  | cons line later ih =>
    refine .body (plain line (by simp)) (within_room fits) (ih (fun l member => ?_) _ ?_)
    · exact plain l (by simp [member])
    · intro most most_eq
      have := fits most most_eq
      simp at this ⊢
      omega

theorem single_success (text : Text) : IsSingle (lit "SUCCESS: " ++ text) :=
  Or.inl ⟨' ' :: text, by simp [lit_eq]⟩

theorem single_error (text : Text) : IsSingle (lit "ERROR: " ++ text) :=
  Or.inr ⟨' ' :: text, by simp [lit_eq]⟩

theorem follows_answers {limit : AccumulationLimit} {kinds : List ResponseKind}
    {answers : List Answer} (answered : List.Forall₂ (Answers limit) kinds answers) :
    Follows limit none kinds (answers.flatMap Answer.lines) none [] := by
  induction answered with
  | nil => exact .done none []
  | @cons kind answer kinds answers fits _ ih =>
    rw [List.flatMap_cons]
    cases answer with
    | success text => exact .single (single_success text) ih
    | error text => exact .single (single_error text) ih
    | block lines =>
      cases kind with
      | multiLine =>
        rw [Answer.lines, List.append_assoc]
        refine follows_block fits.1 ih none fun most most_eq => ?_
        simpa using fits.2 most most_eq
      | _ => cases fits

/-! Answers as messages -/

theorem singleFrame_success (text : Text) :
    singleFrame (lit "SUCCESS: " ++ text) = .success text := by
  have shape : lit "SUCCESS: " ++ text = lit "SUCCESS:" ++ ' ' :: text := by simp [lit_eq]
  have inner : stripPrefix (' ' :: text) [' '] = some text := stripPrefix_append [' '] text
  rw [shape, singleFrame, stripPrefix_append]
  simp [inner]

theorem singleFrame_error (text : Text) : singleFrame (lit "ERROR: " ++ text) = .error text := by
  have shape : lit "ERROR: " ++ text = lit "ERROR:" ++ ' ' :: text := by simp [lit_eq]
  have other : stripPrefix (lit "ERROR:" ++ ' ' :: text) (lit "SUCCESS:") = none :=
    stripPrefix_lit_head (c := 'S') (by simp) (by simp [lit_eq])
  have inner : stripPrefix (' ' :: text) [' '] = some text := stripPrefix_append [' '] text
  rw [shape, singleFrame, other]
  simp [stripPrefix_append, inner]

theorem answerMessages_block {lines : List Text} (plain : ∀ line ∈ lines, IsBody line)
    (block : Option (List Text)) (more : List Text) :
    answerMessages block (lines ++ endMarker :: more) =
      .multiLine (block.getD [] ++ lines) :: answerMessages none more := by
  induction lines generalizing block with
  | nil => simp [answerMessages]
  | cons line later ih =>
    have body := plain line (by simp)
    have tail := ih (fun l member => plain l (by simp [member])) (some (block.getD [] ++ [line]))
    rw [List.cons_append, answerMessages, if_neg body.notEnd, if_neg body.isNotSingle, tail]
    simp

theorem answerMessages_answers {limit : AccumulationLimit} {kinds : List ResponseKind}
    {answers : List Answer} (answered : List.Forall₂ (Answers limit) kinds answers) :
    answerMessages none (answers.flatMap Answer.lines) = answers.map Answer.message := by
  induction answered with
  | nil => rfl
  | @cons kind answer kinds answers fits _ ih =>
    rw [List.flatMap_cons, List.map_cons]
    cases answer with
    | success text =>
      have single := single_success text
      rw [Answer.lines, List.singleton_append, answerMessages, if_neg single.notEnd, if_pos single,
        singleFrame_success, ih]
      rfl
    | error text =>
      have single := single_error text
      rw [Answer.lines, List.singleton_append, answerMessages, if_neg single.notEnd, if_pos single,
        singleFrame_error, ih]
      rfl
    | block lines =>
      cases kind with
      | multiLine =>
        rw [Answer.lines, List.append_assoc, List.singleton_append, answerMessages_block fits.1, ih]
        rfl
      | _ => cases fits

/-! Transcripts -/

theorem pkcs11_entry {payload : Text} {message : OvpnMessage}
    (parsed : parsePkcs11idEntryNotif payload = some message) :
    ∃ index id blob, message = .pkcs11IdEntry index id blob := by
  simp only [parsePkcs11idEntryNotif, bind, Option.bind_eq_some_iff, pure, Option.some.injEq] at parsed
  obtain ⟨_, _, _, _, _, _, _, _, rfl⟩ := parsed
  exact ⟨_, _, _, rfl⟩

theorem notice_message {frame : Frame} (kind : IsNoticeFrame frame) :
    ∃ message, frameMessage frame = some message ∧ isNotification message = true := by
  cases frame with
  | notification k payload =>
    refine ⟨_, rfl, ?_⟩
    unfold parseNotificationFromFrame
    repeat' split
    · rfl
    · rfl
    · cases parsed : parsePkcs11idEntryNotif payload with
      | none => rfl
      | some message =>
        obtain ⟨_, _, _, rfl⟩ := pkcs11_entry parsed
        rfl
    · rfl
  | clientEnv event args env => exact ⟨_, rfl, rfl⟩
  | info payload => exact ⟨_, rfl, rfl⟩
  | _ => cases kind

theorem notification_not_response {message : OvpnMessage} (note : isNotification message = true) :
    isResponse message = false := by
  cases message <;> first | rfl | cases note

theorem transcript_cons (r : Reader) (raw : Text) (more : List Text) :
    transcript r (raw :: more) = (r.take raw).2 ++ transcript (r.take raw).1 more := rfl

theorem take_notice {r : Reader} {raw : Text} {more : List Text}
    (notice : IsNotice (trimLineEnd raw)) (calm : Calm r.frames (raw :: more)) :
    ∃ d messages, r.take raw = (⟨d, r.block⟩, messages) ∧ Calm d more ∧
      ∀ message ∈ messages, isNotification message = true := by
  obtain ⟨quiet, still⟩ := calm
  have cases := takeLine_notice r.frames notice
  generalize line : r.frames.takeLine (trimLineEnd raw) = taken at quiet still cases
  obtain ⟨d, out⟩ := taken
  obtain rfl | ⟨e, rfl⟩ | ⟨frame, rfl, kind⟩ := cases
  · exact ⟨d, [], by rw [Reader.take, line], still, by simp⟩
  · exact absurd rfl (quiet e)
  · obtain ⟨message, known, note⟩ := notice_message kind
    exact ⟨d, [message], by rw [reader_notice line kind, known]; rfl, still, by simpa using note⟩

theorem take_reply {limit : AccumulationLimit} {kinds kindsLeft : List ResponseKind}
    {blockLeft : Option (List Text)} {raw : Text} {more : List Text} {r : Reader}
    (reply : ¬ IsNotice (trimLineEnd raw))
    (follows : Follows limit r.block kinds (replies (raw :: more)) blockLeft kindsLeft)
    (calm : Calm r.frames (raw :: more)) :
    ∃ block messages later, r.take raw = (⟨r.frames, block⟩, messages) ∧
      Follows limit block later (replies more) blockLeft kindsLeft ∧ Calm r.frames more ∧
      (∀ message ∈ messages, isResponse message = true) ∧
      answerMessages r.block (replies (raw :: more)) =
        messages ++ answerMessages block (replies more) := by
  rw [replies_cons, if_neg reply] at follows ⊢
  obtain ⟨-, still⟩ := calm
  obtain ⟨frames, block⟩ := r
  generalize line_eq : trimLineEnd raw = line at follows still reply ⊢
  cases follows with
  | single answer rest =>
    obtain ⟨taken, outcome⟩ := takeLine_single frames answer
    rw [taken] at still
    refine ⟨none, (frameMessage (singleFrame line)).toList, _, ?_, rest, still, ?_, ?_⟩
    · rcases outcome with ⟨text, frame⟩ | ⟨text, frame⟩
      all_goals simp only [Reader.take, line_eq, taken, frame]
    · rcases outcome with ⟨text, frame⟩ | ⟨text, frame⟩
      all_goals simp [frame, frameMessage, isResponse]
    · rw [answerMessages, if_neg answer.notEnd, if_pos answer]
  | blockEnd rest =>
    have taken := takeLine_end frames
    rw [taken] at still
    refine ⟨none, [.multiLine (block.getD [])], _, ?_, rest, still, by simp [isResponse], ?_⟩
    · simp only [Reader.take, line_eq, taken]
    · rw [answerMessages, if_pos rfl]
      rfl
  | body plain room rest =>
    have taken := takeLine_body frames plain.toUnclaimed
    rw [taken] at still
    refine ⟨some (block.getD [] ++ [line]), [], _, ?_, rest, still, by simp, ?_⟩
    · simp only [Reader.take, line_eq, taken]
    · rw [answerMessages, if_neg plain.notEnd, if_neg plain.isNotSingle]
      rfl

/-- Among the messages of a fitting script the responses are those its replies spell, and the
    rest are notifications. -/
theorem transcript_responses {limit : AccumulationLimit} {kinds kindsLeft : List ResponseKind}
    {blockLeft : Option (List Text)} {script : List Text} {r : Reader}
    (follows : Follows limit r.block kinds (replies script) blockLeft kindsLeft)
    (calm : Calm r.frames script) :
    (transcript r script).filter isResponse = answerMessages r.block (replies script) ∧
      ∀ message ∈ transcript r script, isResponse message ∨ isNotification message := by
  induction script generalizing r kinds with
  | nil => exact ⟨rfl, by simp [transcript]⟩
  | cons raw more ih =>
    rw [transcript_cons]
    by_cases notice : IsNotice (trimLineEnd raw)
    · rw [replies_cons, if_pos notice] at follows ⊢
      obtain ⟨d, messages, taken, still, notes⟩ := take_notice notice calm
      obtain ⟨responses, others⟩ := ih (r := ⟨d, r.block⟩) follows still
      rw [taken]
      have silent : messages.filter isResponse = [] :=
        List.filter_eq_nil_iff.mpr fun m member => by
          simp [notification_not_response (notes m member)]
      refine ⟨by rw [List.filter_append, silent, responses, List.nil_append], ?_⟩
      intro m member
      rcases List.mem_append.mp member with here | later
      · exact Or.inr (notes m here)
      · exact others m later
    · obtain ⟨block, messages, later, taken, rest, still, answers, spelt⟩ :=
        take_reply notice follows calm
      obtain ⟨responses, others⟩ := ih (r := ⟨r.frames, block⟩) rest still
      rw [taken, spelt]
      refine ⟨?_, ?_⟩
      · rw [List.filter_append, List.filter_eq_self.mpr answers, responses]
      · intro m member
        rcases List.mem_append.mp member with here | tail
        · exact Or.inl (answers m here)
        · exact others m tail

/-! Whole runs -/

def fresh (limit : AccumulationLimit) : Endpoint :=
  ⟨OvpnCodec.new.withMaxMultiLineLines limit, [], []⟩

/-- Commands go out and answers come in, in any order that keeps every command ahead of its
    answer, with notices between any two lines and the stream cut anywhere: nothing fails, the
    responses are the answers in order, and nothing stays pending. CLIENT lines need not even
    stand together. -/
theorem pipelined_answers_in_order (engine : Bytes → Text) {limit : AccumulationLimit}
    {steps : List Step} {answers : List Answer} {script : List Text}
    (answered : List.Forall₂ (Answers limit) (kinds steps) answers)
    (clean : ∀ raw ∈ script, '\n' ∉ raw)
    (spoken : replies script = answers.flatMap Answer.lines)
    (stream : received steps = wire script)
    (inTime : InTime false 0 [] script steps) :
    ∃ messages : List OvpnMessage,
      (runDrained engine (fresh limit) steps).2 = ([], messages.map .ok) ∧
      messages.filter isResponse = answers.map Answer.message ∧
      (∀ message ∈ messages, isResponse message ∨ isNotification message) ∧
      (runDrained engine (fresh limit) steps).1.expectedQueue = [] ∧
      (runDrained engine (fresh limit) steps).1.multiLineBuf = none := by
  have calm : Calm FrameDecoder.new script := calm_of_unlimited rfl script
  have follows : Follows limit none (kinds steps) (replies script) none [] := by
    rw [spoken]
    exact follows_answers answered
  have synced : Synced (fresh limit) script steps none [] :=
    ⟨clean, stream, follows, inTime, calm⟩
  obtain ⟨decoded, queue, block⟩ := synced_runDrained engine synced
  obtain ⟨responses, others⟩ :=
    transcript_responses (r := readerOf (fresh limit).codec) follows calm
  refine ⟨_, decoded, ?_, others, queue, block⟩
  rw [responses, spoken]
  exact answerMessages_answers answered

def statusThenPid : List Step :=
  [.encode (.status .v1), .encode .pid, .receive (wire [lit "up\r", lit ">HOLD:0"]), .poll,
    .receive (wire [lit "END", lit ">CLIENT:CONNECT,0,1", lit ">CLIENT:ENV,END",
      lit "SUCCESS: pid=1"]), .poll]

theorem statusThenPid_in_order :
    ∃ messages : List OvpnMessage,
      (runDrained (fun _ => []) (fresh (.max 1)) statusThenPid).2 = ([], messages.map .ok) ∧
      messages.filter isResponse = [.multiLine [lit "up"], .success (lit "pid=1")] ∧
      (∀ message ∈ messages, isResponse message ∨ isNotification message) ∧
      (runDrained (fun _ => []) (fresh (.max 1)) statusThenPid).1.expectedQueue = [] ∧
      (runDrained (fun _ => []) (fresh (.max 1)) statusThenPid).1.multiLineBuf = none := by
  have answered : List.Forall₂ (Answers (.max 1)) (kinds statusThenPid)
      [.block [lit "up"], .success (lit "pid=1")] := by
    refine .cons ⟨by decide +kernel, ?_⟩ (.cons trivial .nil)
    rintro most ⟨⟩
    exact Nat.le_refl 1
  have stream : received statusThenPid = wire [lit "up\r", lit ">HOLD:0", lit "END",
      lit ">CLIENT:CONNECT,0,1", lit ">CLIENT:ENV,END", lit "SUCCESS: pid=1"] := by decide +kernel
  exact pipelined_answers_in_order _ answered (by decide +kernel) (by decide +kernel) stream
    (by decide +kernel)

end MgmtPipelining
