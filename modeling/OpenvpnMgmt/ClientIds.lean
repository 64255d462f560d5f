import OpenvpnMgmt.Limits

/-!
Which client a typed notification names. A block names the client of its header, an ADDRESS line
the one behind its event. A reader of the lines alone (`readLine`) lists these namings; over every
run the typed messages are its list, with the number of each first field, or 0 where that field is
no number.
-/
namespace MgmtClientIds
open TextOps Utf8Text LineFraming MgmtEncoder MgmtValues MgmtMessage MgmtFrame MgmtNotifications
  MgmtCodec MgmtDraining MgmtServerStream MgmtMatching MgmtPipelining MgmtBlocks MgmtCalls
  MgmtClientBlocks MgmtLimits

def firstField (args : Text) : Text := args.takeWhile (· ≠ ',')

def clientId (args : Text) : U64 := (parseUInt 64 (firstField args)).getD 0

theorem splitn_first (args : Text) : (splitn 3 (· == ',') args)[0]? = some (firstField args) := by
  cases split : splitOnce (· == ',') args with
  | none =>
    have free : ∀ c ∈ args, c ≠ ',' := by simpa using splitOnce_eq_none.mp split
    have whole : firstField args = args := List.takeWhile_eq_self_iff.mpr (by simpa using free)
    rw [splitn, split, whole]
    rfl
  | some pieces =>
    obtain ⟨before, after⟩ := pieces
    obtain ⟨s, sep, shape, clean⟩ := splitOnce_eq_some split
    have comma : s = ',' := by simpa using sep
    have front : firstField args = before := by
      rw [firstField, shape, comma, List.takeWhile_append_of_pos (by simpa using clean)]
      simp
    rw [splitn, split, front]
    rfl

/-- What names a client: the header of a block that is complete, or an ADDRESS line. -/
inductive Naming (α : Type) where
  | block (client : α)
  | address (client : α)
  deriving DecidableEq, Repr

def Naming.map {α β : Type} (f : α → β) : Naming α → Naming β
  | .block client => .block (f client)
  | .address client => .address (f client)

def naming : Event → Option (Naming U64)
  | .ok (.notification (.client _ cid _ _)) => some (.block cid)
  | .ok (.notification (.clientAddress cid _ _)) => some (.address cid)
  | _ => none

/-! The reader of the lines -/

def addressArgs (line : Text) : Option Text :=
  match stripPrefix line (lit ">CLIENT:") with
  | none => none
  | some payload =>
    let (event, args) := (splitOnce (· == ',') payload).getD (payload, [])
    if event = lit "ADDRESS" then some args else none

/- The arguments of the open block, and the naming that one line completes: END that of the block,
   an ADDRESS line its own. A line that is no UTF-8 drops the block. -/
def readLine (opened : Option Text) (lineBytes : Bytes) : Option Text × List (Naming Text) :=
  match lineText lineBytes with
  | none => (none, [])
  | some line =>
    match opened, envRest line with
    | some args, some rest => if rest = lit "END" then (none, [.block args]) else (some args, [])
    | _, _ =>
      match header line with
      | some (_, args) => (some args, [])
      | none => (opened, (addressArgs line).toList.map .address)

theorem readLine_outside {opened : Option Text} {lineBytes : Bytes} {line : Text}
    (text : lineText lineBytes = some line) (outside : opened = none ∨ envRest line = none) :
    readLine opened lineBytes = match header line with
      | some (_, args) => (some args, [])
      | none => (opened, (addressArgs line).toList.map .address) := by
  simp only [readLine, text]
  rcases outside with closed | missing
  · rw [closed]
  · simp only [missing]

/-! Frames and the clients they name -/

def frameNaming : Frame → Option (Naming Text)
  | .clientEnv _ args _ => some (.block args)
  | .notification kind payload =>
    if kind = lit "CLIENT" then
      (addressArgs (noticeLine (lit "CLIENT") payload)).map .address
    else none
  | _ => none

def namings : Option (Except IoError Frame) → List (Naming Text)
  | some (.ok frame) => (frameNaming frame).toList
  | _ => []

theorem addressArgs_client (payload : Text) :
    addressArgs (noticeLine (lit "CLIENT") payload) =
      let (event, args) := (splitOnce (· == ',') payload).getD (payload, [])
      if event = lit "ADDRESS" then some args else none := by
  rw [addressArgs, stripClient_notice client_plain, if_pos rfl]

theorem addressArgs_reply {line : Text} (reply : ¬ IsNotice line) : addressArgs line = none := by
  rw [addressArgs, stripClient_reply reply]

theorem addressArgs_other {kind payload : Text} (clean : ':' ∉ kind) (other : kind ≠ lit "CLIENT") :
    addressArgs (noticeLine kind payload) = none := by
  rw [addressArgs, stripClient_notice clean, if_neg other]

theorem classify_names {d after : FrameDecoder} {line : Text} {frame : Frame}
    (taken : d.classify line = (after, some (.ok frame))) :
    frameNaming frame = (addressArgs line).map .address := by
  by_cases notice : IsNotice line
  · obtain ⟨kind, payload, clean, rfl⟩ := isNotice_iff.mp notice
    rw [classify_notice d clean, FrameDecoder.takeNotice] at taken
    by_cases client : kind = lit "CLIENT"
    · have other : kind ≠ lit "INFO" := by simp [client, lit_eq]
      rw [if_neg other, if_pos client] at taken
      simp only at taken
      rw [client]
      split at taken
      · cases taken
        simp [frameNaming]
      · cases taken
    · rw [addressArgs_other clean client]
      rw [if_neg client] at taken
      split at taken
      · split at taken
        · cases taken
          simp [frameNaming, client]
        · cases taken
          rfl
      · cases taken
        simp [frameNaming, client]
  · obtain ⟨same, shape, other⟩ := classify_reply d notice
    rw [addressArgs_reply notice]
    rw [shape] at taken
    cases taken
    cases frame with
    | notification | clientEnv => exact absurd trivial other
    | _ => rfl

theorem takeLine_outside {d : FrameDecoder} {line : Text}
    (outside : d.clientNotification = none ∨ envRest line = none) :
    line = [] ∧ d.takeLine line = (d, some (.ok (.line line))) ∨
      d.takeLine line = d.classify line := by
  rw [FrameDecoder.takeLine]
  split
  · rename_i blank
    exact Or.inl ⟨blank.1, rfl⟩
  · right
    split
    · rename_i opened inside
      rcases outside with closed | missing
      · rw [closed] at opened
        cases opened
      · rw [envRest, inside] at missing
        cases missing
    · rfl

/-- What a line leaves open and what it hands out are what the reader makes of it. -/
theorem takeBytes_names (d : FrameDecoder) (lineBytes : Bytes) :
    readLine (d.clientNotification.map (·.args)) lineBytes =
      ((d.takeBytes lineBytes).1.clientNotification.map (·.args),
        namings (d.takeBytes lineBytes).2) := by
  cases text : lineText lineBytes with
  | none =>
    rw [takeBytes_unreadable d text, readLine, text]
    rfl
  | some line =>
    have taken := takeBytes_lineText d text
    cases takeBytes_block d lineBytes with
    | drops unreadable => simp [text] at unreadable
    | closes same opened inside closed result =>
      rw [closed, result, opened, readLine, same]
      simp [inside, namings, frameNaming]
    | grows same opened inside entry room grown silent =>
      rw [grown, silent, opened, readLine, same]
      simp [inside, entry, namings]
    -- An entry past the limit is an error, and the block stays open.
    | refuses same opened inside entry full kept result =>
      rw [kept, result, opened, readLine, same]
      simp [inside, entry, namings]
    | opens same outside first fresh silent =>
      rw [fresh, silent, readLine_outside same (outside.imp_left fun closed => by rw [closed]; rfl),
        first]
      rfl
    | @passes line frame same outside plain kept result other =>
      rw [kept, result, readLine_outside same (outside.imp_left fun closed => by rw [closed]; rfl),
        plain]
      have shape := takeBytes_lineText d same
      -- A line that opens no block and joins none: ADDRESS, or no CLIENT line at all.
      have names : frameNaming frame = (addressArgs line).map .address := by
        rcases takeLine_outside outside with ⟨blank, handed⟩ | handed
        · rw [shape, handed] at result
          cases result
          rw [blank, addressArgs_reply (by simp [IsNotice])]
          rfl
        · rw [shape, handed] at result
          exact classify_names (Prod.ext rfl result)
      rw [namings, names]
      cases addressArgs line <;> rfl

/-! The codec -/

theorem parseTyped_unnamed (kind payload : Text) :
    Gives (fun n => naming (.ok (.notification n)) = none) (parseTyped kind payload) := by
  apply parseTyped_gives
  intro n notBlock notAddress
  cases n with
  | client event cid kid env => exact absurd rfl (notBlock event cid kid env)
  | clientAddress cid addr primary => exact absurd rfl (notAddress cid addr primary)
  | _ => rfl

theorem parseNotification_naming (kind payload : Text) :
    naming (.ok (parseNotificationFromFrame kind payload)) =
      (frameNaming (.notification kind payload)).map (Naming.map clientId) := by
  rw [parseNotificationFromFrame, frameNaming]
  by_cases client : kind = lit "CLIENT"
  · rw [if_pos client, if_pos client, addressArgs_client, parseClientAddress]
    simp only
    split
    · rw [splitn_first]
      rfl
    · rfl
  · rw [if_neg client, if_neg client]
    split
    · rfl
    · split
      · cases entry : parsePkcs11idEntryNotif payload with
        | none => rfl
        | some message =>
          obtain ⟨_, _, _, rfl⟩ := pkcs11_entry entry
          rfl
      · cases typed : parseTyped kind payload with
        | none => rfl
        | some n =>
          exact parseTyped_unnamed kind payload n typed

theorem parseClientEnv_naming (event args : Text) (env : Env) :
    naming (.ok (parseClientEnv event args env)) = some (.block (clientId args)) := by
  simp only [parseClientEnv, splitn_first]
  rfl

theorem takeLine_unnamed (c : OvpnCodec) (line : Text) :
    (c.takeLine line).2.bind naming = none := by
  unfold OvpnCodec.takeLine
  repeat' split
  all_goals rfl

theorem takeEnd_unnamed (c : OvpnCodec) : c.takeEnd.2.bind naming = none := by
  unfold OvpnCodec.takeEnd
  repeat' split
  all_goals rfl

theorem takeFrame_naming (c : OvpnCodec) (frame : Frame) :
    (c.takeFrame frame).2.bind naming = (frameNaming frame).map (Naming.map clientId) := by
  cases frame with
  | notification kind payload => exact parseNotification_naming kind payload
  | clientEnv event args env => exact parseClientEnv_naming event args env
  | line line => exact takeLine_unnamed c line
  | endMarker => exact takeEnd_unnamed c
  | _ => rfl

def openedArgs (c : OvpnCodec) : Option Text := c.frameDecoder.clientNotification.map (·.args)

theorem takeBytes_naming (c : OvpnCodec) (lineBytes : Bytes) :
    (readLine (openedArgs c) lineBytes).1 = openedArgs (c.takeBytes lineBytes).1 ∧
      (c.takeBytes lineBytes).2.toList.filterMap naming =
        (readLine (openedArgs c) lineBytes).2.map (Naming.map clientId) := by
  rw [openedArgs, takeBytes_names, OvpnCodec.takeBytes]
  rcases c.frameDecoder.takeBytes lineBytes with ⟨d, _ | e | frame⟩
  · exact ⟨rfl, rfl⟩
  · exact ⟨rfl, rfl⟩
  · have named := takeFrame_naming (c.withFrames d) frame
    refine ⟨by rw [openedArgs, (takeFrame_keeps _ _).1]; rfl, ?_⟩
    simp only [namings]
    cases out : ((c.withFrames d).takeFrame frame).2 with
    | none =>
      rw [out, Option.bind_none] at named
      rw [Option.map_eq_none_iff.mp named.symm]
      rfl
    | some event =>
      rw [out, Option.bind_some] at named
      rw [Option.toList_some, List.filterMap_cons, named]
      cases frameNaming frame <;> rfl

theorem call_naming {c after : OvpnCodec} {src rest : Bytes}
    {out : Except IoError (Option OvpnMessage)} (call : Call c src after rest out) :
    (feed readLine (openedArgs c) ((taken c src).map Prod.snd)).1 = openedArgs after ∧
      (events out).filterMap naming =
        (feed readLine (openedArgs c) ((taken c src).map Prod.snd)).2.map (Naming.map clientId) := by
  induction call with
  | quiet unfinished =>
    rw [taken_open _ unfinished]
    exact ⟨rfl, rfl⟩
  | prompt unfinished =>
    rw [taken_open _ unfinished]
    exact ⟨rfl, rfl⟩
  | @result c after body rest out clean line =>
    have step := takeBytes_naming c (body ++ [newline])
    rw [line] at step
    rw [taken_line c clean, line]
    simp only [List.map_cons, List.map_nil, feed_cons, feed_nil, List.append_nil]
    refine ⟨step.1, ?_⟩
    rw [← step.2]
    cases out <;> rfl
  | @silent c after _ body rest _ out clean line more ih =>
    have step := takeBytes_naming c (body ++ [newline])
    rw [line] at step
    rw [taken_line c clean, line]
    simp only [List.map_cons, feed_cons, step.1, List.map_append, ← step.2]
    exact ⟨ih.1, ih.2⟩

/-! Runs -/

theorem run_naming (engine : Bytes → Text) (e : Endpoint) (steps : List Step) :
    (run engine e steps).2.filterMap naming =
      (feed readLine (openedArgs e.codec) (linesTaken engine e steps)).2.map
        (Naming.map clientId) := by
  induction steps generalizing e with
  | nil => rfl
  | cons s more ih =>
    have later := ih (step engine e s).1
    cases s with
    | encode cmd =>
      have opened : openedArgs (step engine e (.encode cmd)).1.codec = openedArgs e.codec := by
        simp only [step, encode_codec, openedArgs]
      rw [opened] at later
      exact later
    | receive chunk => exact later
    | poll =>
      have call := call_naming (decode_call e.codec e.buffer)
      have opened : openedArgs (forget (e.codec.decode e.buffer).1) =
          openedArgs (step engine e .poll).1.codec := rfl
      rw [opened] at call
      simp only [run, linesTaken, feed_append, List.filterMap_append, List.map_append, call.1, later]
      rw [← call.2]
      rfl

/-- In every run the typed CLIENT messages are, in order, the complete blocks and the ADDRESS lines,
    each with the number of its first field, or 0 where that field is no u64. -/
theorem client_ids_read (engine : Bytes → Text) (limit envLimit : AccumulationLimit)
    (mode : EncoderMode) (steps : List Step) :
    let start : Endpoint := ⟨((OvpnCodec.new.withMaxMultiLineLines limit).withMaxClientEnvEntries
      envLimit).withEncoderMode mode, [], []⟩
    (run engine start steps).2.filterMap naming =
      (feed readLine none (linesTaken engine start steps)).2.map (Naming.map clientId) := by
  intro start
  exact run_naming engine start steps

/-- A header whose first field is no number, and an ADDRESS line with none at all: both messages
    name client 0. -/
theorem client_id_invented :
    (run (fun _ => []) ⟨OvpnCodec.new, [], []⟩
        [.receive (wire [lit ">CLIENT:CONNECT,abc", lit ">CLIENT:ENV,END", lit ">CLIENT:ADDRESS"]),
          .poll, .poll]).2 =
      [.ok (.notification (.client .connect 0 none ∅)),
        .ok (.notification (.clientAddress 0 [] false))] ∧
      parseUInt 64 (firstField (lit "abc")) = none ∧ parseUInt 64 (firstField []) = none := by
  decide +kernel

end MgmtClientIds
