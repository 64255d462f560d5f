import OpenvpnMgmt.App
import OpenvpnMgmt.ClientIds
import OpenvpnMgmt.Lib.Roster

/-!
The table of clients against the history of a session. Of all messages only a CLIENT notification
touches it, by the spelling of its event; a decoded event is spelled as one of the known ones only
if it is that one.
-/
namespace MgmtClientTable
open TextOps Utf8Text MgmtValues MgmtMessage MgmtFrame MgmtNotifications MgmtCodec MgmtDraining
  MgmtServerStream MgmtCalls MgmtClientIds MgmtTimestamp MgmtApp Results Roster

def Decodes (m : OvpnMessage) : Prop :=
  ∃ (c : OvpnCodec) (src : Bytes), (c.decode src).2.2 = .ok (some m)

def handleAll (app : App) (messages : List OvpnMessage) : Checked App :=
  messages.foldlM App.handleOvpnMessage app

def IsClient : OvpnMessage → Prop
  | .notification (.client _ _ _ _) => True
  | _ => False

theorem isClient_shape {m : OvpnMessage} (client : IsClient m) :
    ∃ event cid kid env, m = .notification (.client event cid kid env) := by
  cases m with
  | notification n =>
    cases n with
    | client event cid kid env => exact ⟨event, cid, kid, env, rfl⟩
    | _ => cases client
  | _ => cases client

def clientChange : OvpnMessage → Change U64
  | .notification (.client .connect cid _ _) => .enters cid
  | .notification (.client .reauth cid _ _) => .enters cid
  | .notification (.client .established cid _ _) => .enters cid
  | .notification (.client .disconnect cid _ _) => .leaves cid
  | _ => .keeps

def cids (app : App) : List U64 := app.clients.map (·.cid)

/-! Decoded events -/

def knownEvents : List Text := [lit "CONNECT", lit "REAUTH", lit "ESTABLISHED", lit "DISCONNECT"]

/- An event of another name is not spelled like a known one. -/
def PlainlyRead (event : ClientEvent) : Prop := ∀ name, event = .unknown name → name ∉ knownEvents

theorem fromStr_plain (spelled : Text) :
    PlainlyRead (orUnknown .unknown (ClientEvent.fromStr spelled)) := by
  intro name other known
  simp only [knownEvents, List.mem_cons, List.not_mem_nil, or_false] at known
  unfold ClientEvent.fromStr at other
  repeat' split at other
  all_goals cases other
  simp_all

theorem parseClientEnv_plain {event args : Text} {env found : Env} {read : ClientEvent} {cid : U64}
    {kid : Option U64}
    (parsed : parseClientEnv event args env = .notification (.client read cid kid found)) :
    PlainlyRead read := by
  simp only [parseClientEnv, OvpnMessage.notification.injEq, Notification.client.injEq] at parsed
  rw [← parsed.1]
  split
  · intro name other
    cases other
  · exact fromStr_plain event

def ReadsPlainly (event : Event) : Prop :=
  ∀ read cid kid env, event = .ok (.notification (.client read cid kid env)) → PlainlyRead read

theorem takeFrame_plain (c : OvpnCodec) (frame : Frame) :
    ∀ event ∈ (c.takeFrame frame).2, ReadsPlainly event := by
  intro event member read cid kid env same
  subst same
  have named := takeFrame_naming c frame
  rw [Option.mem_def.mp member] at named
  cases frame with
  | clientEnv event args accumulated =>
    have parsed := Except.ok.inj (Option.some.inj (Option.mem_def.mp member))
    exact parseClientEnv_plain parsed
  | notification kind payload =>
    -- A notice names a client as an ADDRESS line at most.
    rw [frameNaming, Option.bind_some, naming] at named
    obtain ⟨name, found, same⟩ := Option.map_eq_some_iff.mp named.symm
    split at found
    · obtain ⟨args, _, address⟩ := Option.map_eq_some_iff.mp found
      subst address
      cases same
    · cases found
  | _ => cases named

theorem takeBytes_plain (c : OvpnCodec) (line : Bytes) :
    ∀ event ∈ (c.takeBytes line).2, ReadsPlainly event := by
  unfold OvpnCodec.takeBytes
  split
  · simp
  · intro event member read cid kid env same
    cases member
    cases same
  · exact takeFrame_plain _ _

theorem decodes_plain {read : ClientEvent} {cid : U64} {kid : Option U64} {env : Env}
    (decoded : Decodes (.notification (.client read cid kid env))) : PlainlyRead read := by
  obtain ⟨c, src, result⟩ := decoded
  have prompts : ReadsPlainly (.ok .passwordPrompt) := by
    intro read cid kid env impossible
    cases impossible
  have reported := decode_emits takeBytes_plain prompts c src
  rw [result] at reported
  exact reported _ (by simp [events]) read cid kid env rfl

/-! The table -/

@[simp] theorem addLog_clients (app : App) (level : LogLevel) (timestamp message : Text) :
    (app.addLog level timestamp message).clients = app.clients := by
  unfold App.addLog
  rfl

@[simp] theorem appendCommandResponseLines_clients (app : App) (lines : List Text) :
    (app.appendCommandResponseLines lines).clients = app.clients := by
  unfold App.appendCommandResponseLines
  split <;> rfl

@[simp] theorem ingestState_clients (app : App) (lines : List Text) :
    (app.ingestState lines).clients = app.clients := by
  unfold App.ingestState
  split <;> rfl

@[simp] theorem handlePassword_clients (app : App) (sub : PasswordNotification) :
    (app.handlePassword sub).clients = app.clients := by
  cases sub <;> exact addLog_clients app _ _ _

theorem handleNotification_other {app after : App} {n : Notification}
    (other : ¬ IsClient (.notification n)) (handled : app.handleNotification n = .ok after) :
    after.clients = app.clients := by
  cases n with
  | client event cid kid env => exact absurd trivial other
  | byteCount bytesIn bytesOut =>
    cases handled
    rfl
  | password sub =>
    cases handled
    exact handlePassword_clients app sub
  | state | log | echo | rsaSign | pkSign =>
    obtain ⟨text, _, same⟩ := map_eq_ok.mp handled
    subst same
    exact addLog_clients _ _ _ _
  | _ =>
    cases handled
    exact addLog_clients app _ _ _

theorem handle_other {app after : App} {m : OvpnMessage} (other : ¬ IsClient m)
    (handled : app.handleOvpnMessage m = .ok after) : after.clients = app.clients := by
  cases m with
  | notification n => exact handleNotification_other other handled
  | multiLine lines =>
    cases handled
    exact (appendCommandResponseLines_clients _ _).trans (ingestState_clients _ _)
  | success | error | pkcs11IdEntry =>
    cases handled
    exact appendCommandResponseLines_clients _ _
  | _ =>
    cases handled
    exact addLog_clients app _ _ _

theorem known_iff (app : App) (cid : U64) : app.clients.any (·.cid = cid) ↔ cid ∈ cids app := by
  simp [cids]

def Enters (event : ClientEvent) : Prop :=
  event.toText = lit "CONNECT" ∨ event.toText = lit "REAUTH" ∨ event.toText = lit "ESTABLISHED"

instance (event : ClientEvent) : Decidable (Enters event) := inferInstanceAs (Decidable (_ ∨ _))

theorem handleClient_silent (app : App) {event : ClientEvent}
    (stays : ¬ Enters event) (other : event.toText ≠ lit "DISCONNECT") (cid : U64)
    (kid : Option U64) (env : Env) :
    (app.handleClient event cid kid env).clients = app.clients := by
  unfold App.handleClient
  simp only [addLog_clients]
  rw [if_neg (fun both => stays both.1), if_neg other]
  exact addLog_clients app _ _ _

theorem handleClient_spelled (app : App) (event : ClientEvent) (cid : U64) (kid : Option U64)
    (env : Env) :
    cids (app.handleClient event cid kid env) = apply (cids app)
      (if Enters event then .enters cid
        else if event.toText = lit "DISCONNECT" then .leaves cid else .keeps) := by
  have known := known_iff app cid
  by_cases entering : Enters event
  · unfold App.handleClient
    simp only [addLog_clients]
    have other : event.toText ≠ lit "DISCONNECT" := by
      intro same
      rw [Enters, same] at entering
      simp [lit_eq] at entering
    rw [if_pos entering, apply]
    by_cases inside : cid ∈ cids app
    · rw [if_pos inside, if_neg (fun both => both.2 (known.mpr inside)), if_neg other]
      simp [cids]
    · rw [if_neg inside, if_pos ⟨entering, fun any => inside (known.mp any)⟩]
      simp [cids]
  · rw [if_neg entering]
    by_cases leaving : event.toText = lit "DISCONNECT"
    · unfold App.handleClient
      simp only [addLog_clients]
      rw [if_neg (fun both => entering both.1), if_pos leaving, if_pos leaving]
      simp [cids, apply, List.filter_map, Function.comp_def]
    · rw [if_neg leaving, cids, handleClient_silent app entering leaving]
      rfl

theorem handleClient_cids (app : App) {event : ClientEvent} (plain : PlainlyRead event) (cid : U64)
    (kid : Option U64) (env : Env) :
    cids (app.handleClient event cid kid env) =
      apply (cids app) (clientChange (.notification (.client event cid kid env))) := by
  rw [handleClient_spelled]
  congr 1
  cases event with
  | unknown name =>
    have other := plain name rfl
    simp only [knownEvents, List.mem_cons, List.not_mem_nil, or_false, not_or] at other
    simp [Enters, ClientEvent.toText, clientChange, other]
  | _ => simp [Enters, ClientEvent.toText, clientChange, lit_eq]

theorem handleClient_keeps (app : App) {event : ClientEvent} (plain : PlainlyRead event)
    {cid : U64} {kid : Option U64} {env : Env}
    (keeps : clientChange (.notification (.client event cid kid env)) = .keeps) :
    (app.handleClient event cid kid env).clients = app.clients := by
  cases event with
  | unknown name =>
    have other := plain name rfl
    simp only [knownEvents, List.mem_cons, List.not_mem_nil, or_false, not_or] at other
    apply handleClient_silent
    · simp [Enters, ClientEvent.toText, other]
    · exact other.2.2.2
  | crResponse response =>
    apply handleClient_silent
    · simp [Enters, ClientEvent.toText, lit_eq]
    · simp [ClientEvent.toText, lit_eq]
  | _ => cases keeps

theorem handle_cids {app after : App} {m : OvpnMessage} (decoded : Decodes m)
    (handled : app.handleOvpnMessage m = .ok after) :
    cids after = apply (cids app) (clientChange m) := by
  by_cases client : IsClient m
  · obtain ⟨event, cid, kid, env, same⟩ := isClient_shape client
    subst same
    cases handled
    exact handleClient_cids app (decodes_plain decoded) cid kid env
  · rw [cids, handle_other client handled]
    cases m with
    | notification n =>
      cases n with
      | client event cid kid env => exact absurd trivial client
      | _ => rfl
    | _ => rfl

/-! Sessions -/

theorem handleAll_cids {app final : App} {messages : List OvpnMessage}
    (decoded : ∀ m ∈ messages, Decodes m) (handled : handleAll app messages = .ok final) :
    cids final = messages.foldl (fun keys m => apply keys (clientChange m)) (cids app) := by
  induction messages generalizing app with
  | nil =>
    cases handled
    rfl
  | cons m more ih =>
    rw [handleAll, List.foldlM_cons] at handled
    obtain ⟨next, first, rest⟩ := bind_eq_ok.mp handled
    rw [List.foldl_cons, ← handle_cids (decoded m (by simp)) first]
    exact ih (fun m member => decoded m (by simp [member])) rest

theorem handleAll_completes (app : App) {messages : List OvpnMessage}
    (clients : ∀ m ∈ messages, IsClient m) : ∃ final, handleAll app messages = .ok final := by
  induction messages generalizing app with
  | nil => exact ⟨app, rfl⟩
  | cons m more ih =>
    obtain ⟨event, cid, kid, env, same⟩ := isClient_shape (clients m (by simp))
    subst same
    exact ih (app.handleClient event cid kid env) (fun m member => clients m (by simp [member]))

/-- The table of clients mirrors the messages since the last reset: CLIENT notifications are all
    taken, no client is listed twice, those listed are the ones that entered and have not left
    since, and a message of any other kind leaves the table as it is. -/
theorem clients_mirror_events (app : App) (messages : List OvpnMessage)
    (decoded : ∀ m ∈ messages, Decodes m) :
    ((∀ m ∈ messages, IsClient m) → ∃ final, handleAll app.resetSessionData messages = .ok final) ∧
    (∀ final, handleAll app.resetSessionData messages = .ok final →
      (cids final).Nodup ∧ ∀ cid, cid ∈ cids final ↔ Present clientChange messages cid) ∧
    ∀ m ∈ messages, clientChange m = .keeps → ∀ before after : App,
      before.handleOvpnMessage m = .ok after → after.clients = before.clients := by
  refine ⟨handleAll_completes _, ?_, ?_⟩
  · intro final handled
    have kept := handleAll_cids decoded handled
    have tracks : Tracks clientChange _ messages := tracks_events messages
    change cids final = messages.foldl _ [] at kept
    rw [← kept] at tracks
    exact ⟨tracks.nodup, tracks.mem_iff⟩
  · intro m member keeps before after handled
    by_cases client : IsClient m
    · obtain ⟨event, cid, kid, env, same⟩ := isClient_shape client
      subst same
      cases handled
      exact handleClient_keeps before (decodes_plain (decoded _ member)) keeps
    · exact handle_other client handled

def oneStays : List OvpnMessage :=
  [.notification (.client .connect 1 (some 2) ∅), .notification (.client .connect 5 none ∅),
    .notification (.client .disconnect 1 none ∅),
    .notification (.client (.unknown (lit "RENEW")) 1 none ∅)]

theorem clients_mirror_events_leave :
    (∃ final, handleAll App.new.resetSessionData oneStays = .ok final) ∧
      ∀ final, handleAll App.new.resetSessionData oneStays = .ok final →
        (cids final).Nodup ∧ ∀ cid, cid ∈ cids final ↔ Present clientChange oneStays cid := by
  have alone : ∀ header m, (OvpnCodec.new.decode (wire [header, lit ">CLIENT:ENV,END"])).2.2 =
      .ok (some m) → Decodes m := by
    intro header m found
    exact ⟨.new, wire [header, lit ">CLIENT:ENV,END"], found⟩
  have decoded : ∀ m ∈ oneStays, Decodes m := by
    intro m member
    simp only [oneStays, List.mem_cons, List.not_mem_nil, or_false] at member
    rcases member with same | same | same | same <;> subst same
    · exact alone (lit ">CLIENT:CONNECT,1,2") _ (by decide +kernel)
    · exact alone (lit ">CLIENT:CONNECT,5") _ (by decide +kernel)
    · exact alone (lit ">CLIENT:DISCONNECT,1") _ (by decide +kernel)
    · exact alone (lit ">CLIENT:RENEW,1") _ (by decide +kernel)
  have clients : ∀ m ∈ oneStays, IsClient m := by simp [oneStays, IsClient]
  have mirrors := clients_mirror_events App.new oneStays decoded
  exact ⟨mirrors.1 clients, mirrors.2.1⟩

end MgmtClientTable
