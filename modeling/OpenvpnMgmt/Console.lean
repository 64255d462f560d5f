import Mathlib.Data.List.ModifyLast
import OpenvpnMgmt.App
import OpenvpnMgmt.Command
import OpenvpnMgmt.Lib.Results

/-!
The console pane: commands that are recorded, commands that are sent without a record, and the
responses, which come in the order of the commands. A ledger keeps for every recorded command its
own responses; the console keeps one flag and writes to the last entry.
-/
namespace MgmtConsole
open TextOps MgmtCommand MgmtMessage MgmtApp Results

inductive Response where
  | success (payload : Text)
  | error (payload : Text)
  | multiLine (lines : List Text)
  | pkcs11IdEntry (index id blob : Text)
  deriving DecidableEq, Repr

def Response.message : Response → OvpnMessage
  | .success payload => .success payload
  | .error payload => .error payload
  | .multiLine lines => .multiLine lines
  | .pkcs11IdEntry index id blob => .pkcs11IdEntry index id blob

def Response.shown : Response → List Text
  | .success payload => [lit "SUCCESS: " ++ payload]
  | .error payload => [lit "ERROR: " ++ payload]
  | .multiLine lines => lines.map (lit "  " ++ ·)
  | .pkcs11IdEntry index id blob =>
    [lit "PKCS11: index=" ++ index ++ lit " id=" ++ id ++ lit " blob=" ++ blob]

inductive ConsoleStep where
  /-- `send_and_record` -/
  | record (label : Text) (cmd : OvpnCommand)
  /-- A startup command, or one of the status refresh. -/
  | send (cmd : OvpnCommand)
  /-- The next response. -/
  | respond (response : Response)

def consoleStep (app : App) : ConsoleStep → Checked App
  | .record label _ => .ok (app.record label)
  | .send _ => .ok app
  | .respond response => app.handleOvpnMessage response.message

def consoleRun (app : App) (steps : List ConsoleStep) : Checked App := steps.foldlM consoleStep app

/-! The ledger -/

def addLines (lines : List Text) (entry : CommandHistoryEntry) : CommandHistoryEntry :=
  { entry with responseLines := entry.responseLines ++ lines }

/-- What the console is meant to show. Every unanswered command is listed with its entry, if it was
    recorded. -/
structure Ledger where
  entries : List CommandHistoryEntry
  outstanding : List (Option Nat)
  /-- No response has come since the last recording. -/
  fresh : Bool

def Ledger.start : Ledger := ⟨[], [], false⟩

/- Some commands are never answered. -/
def Ledger.expect (l : Ledger) (cmd : OvpnCommand) (entry : Option Nat) : List (Option Nat) :=
  if cmd.expectedResponse = .noResponse then l.outstanding else l.outstanding ++ [entry]

def Ledger.answered (l : Ledger) : Option Nat := l.outstanding.head?.join

def addTo (entry : Option Nat) (lines : List Text) (entries : List CommandHistoryEntry) :
    List CommandHistoryEntry :=
  match entry with
  | some i => entries.modify i (addLines lines)
  | none => entries

def Ledger.step (l : Ledger) : ConsoleStep → Ledger
  | .record label cmd =>
    ⟨l.entries ++ [⟨label, []⟩], l.expect cmd (some l.entries.length), true⟩
  | .send cmd => { l with outstanding := l.expect cmd none }
  | .respond response => ⟨addTo l.answered response.shown l.entries, l.outstanding.tail, false⟩

def ledger (steps : List ConsoleStep) : Ledger := steps.foldl Ledger.step .start

def Ledger.freshEntry (l : Ledger) : Option Nat :=
  if l.fresh then some (l.entries.length - 1) else none

/- A response with lines comes in its turn: it answers the last recorded command if no response has
   come since that was recorded, and else a command that was not recorded. -/
def InTurn (l : Ledger) (response : Response) : Prop :=
  response.shown = [] ∨ l.answered = l.freshEntry

def recordings (steps : List ConsoleStep) : Nat :=
  steps.countP fun
    | .record _ _ => true
    | _ => false

def Lands (app : App) (steps : List ConsoleStep) : Prop :=
  ∃ after, consoleRun app.resetSessionData steps = .ok after ∧
    after.commandHistory = (ledger steps).entries

/-! Entries -/

theorem add_changes {lines : List Text} (nonempty : lines ≠ []) (entry : CommandHistoryEntry) :
    addLines lines entry ≠ entry := by
  intro same
  have longer := congrArg (fun e => e.responseLines.length) same
  have positive := List.length_pos_of_ne_nil nonempty
  simp only [addLines, List.length_append] at longer
  omega

theorem addTo_nil (entry : Option Nat) (entries : List CommandHistoryEntry) :
    addTo entry [] entries = entries := by
  have unchanged : addLines [] = id := by
    funext e
    simp [addLines]
  cases entry with
  | none => rfl
  | some i => rw [addTo, unchanged, List.modify_id]

theorem addTo_get (i : Nat) (lines : List Text) {entries : List CommandHistoryEntry}
    (inside : i < entries.length) :
    (addTo (some i) lines entries)[i]? = some (addLines lines entries[i]) := by
  rw [addTo, List.getElem?_modify_eq, List.getElem?_eq_getElem inside]
  rfl

theorem addTo_get_other {entry : Option Nat} {i : Nat} (other : entry ≠ some i)
    (lines : List Text) (entries : List CommandHistoryEntry) :
    (addTo entry lines entries)[i]? = entries[i]? := by
  cases entry with
  | none => rfl
  | some j => exact List.getElem?_modify_ne _ _ (fun same => other (by rw [same]))

theorem addTo_same {a b : Option Nat} {lines : List Text} (nonempty : lines ≠ [])
    {entries : List CommandHistoryEntry} {i : Nat} (inside : i < entries.length)
    (same : addTo a lines entries = addTo b lines entries) (here : a = some i) : b = some i := by
  by_contra other
  have changed := addTo_get i lines inside
  rw [← here, same, addTo_get_other other, List.getElem?_eq_getElem inside] at changed
  exact add_changes nonempty _ (Option.some.inj changed).symm

theorem addTo_inj {a b : Option Nat} {lines : List Text} (nonempty : lines ≠ [])
    {entries : List CommandHistoryEntry} (aInside : ∀ i, a = some i → i < entries.length)
    (bInside : ∀ i, b = some i → i < entries.length) :
    addTo a lines entries = addTo b lines entries ↔ a = b := by
  constructor
  · intro same
    cases a with
    | some i => exact (addTo_same nonempty (aInside i rfl) same rfl).symm
    | none =>
      cases b with
      | none => rfl
      | some j => exact addTo_same nonempty (bInside j rfl) same.symm rfl
  · intro same
    rw [same]

/-! Steps -/

def SameConsole (after before : App) : Prop :=
  after.commandHistory = before.commandHistory ∧
    after.awaitingCommandResponse = before.awaitingCommandResponse

theorem ingestState_console (app : App) (lines : List Text) :
    SameConsole (app.ingestState lines) app := by
  unfold App.ingestState
  split <;> exact ⟨rfl, rfl⟩

theorem ingestMultiline_console (app : App) (lines : List Text) :
    SameConsole (app.ingestMultiline lines) app := by
  unfold App.ingestMultiline
  exact ingestState_console _ lines

def landed (app : App) (lines : List Text) : List CommandHistoryEntry :=
  if app.awaitingCommandResponse then app.commandHistory.modifyLast (addLines lines)
  else app.commandHistory

theorem append_lands {app before : App} (same : SameConsole app before) (lines : List Text) :
    (app.appendCommandResponseLines lines).commandHistory = landed before lines ∧
      (app.appendCommandResponseLines lines).awaitingCommandResponse = false := by
  unfold App.appendCommandResponseLines landed
  rw [← same.1, ← same.2]
  split
  · exact ⟨rfl, rfl⟩
  · rename_i idle
    exact ⟨rfl, by simpa using idle⟩

theorem respond_lands (app : App) (response : Response) :
    ∃ after, consoleStep app (.respond response) = .ok after ∧
      after.commandHistory = landed app response.shown ∧ after.awaitingCommandResponse = false := by
  cases response with
  | success payload => exact ⟨_, rfl, append_lands ⟨rfl, rfl⟩ _⟩
  | error payload => exact ⟨_, rfl, append_lands ⟨rfl, rfl⟩ _⟩
  | pkcs11IdEntry index id blob => exact ⟨_, rfl, append_lands ⟨rfl, rfl⟩ _⟩
  | multiLine lines => exact ⟨_, rfl, append_lands (ingestMultiline_console app lines) _⟩

theorem modify_last (f : CommandHistoryEntry → CommandHistoryEntry)
    (front : List CommandHistoryEntry) (last : CommandHistoryEntry) :
    (front ++ [last]).modify front.length f = front ++ [f last] := by
  induction front with
  | nil => rfl
  | cons entry rest ih => simp [List.modify_succ_cons, ih]

theorem modifyLast_eq_addTo {lines : List Text} {entries : List CommandHistoryEntry}
    (filled : entries ≠ []) :
    entries.modifyLast (addLines lines) = addTo (some (entries.length - 1)) lines entries := by
  obtain ⟨front, last, shape⟩ := (List.eq_nil_or_concat entries).resolve_left filled
  rw [List.concat_eq_append] at shape
  subst shape
  rw [List.modifyLast_concat, addTo, List.length_append, List.length_singleton,
    Nat.add_sub_cancel, modify_last]

/-! Ledgers -/

/-- The entries of a ledger are the recorded commands, and the commands that wait for a response
    have theirs among them. -/
structure Sound (l : Ledger) (recorded : Nat) : Prop where
  length : l.entries.length = recorded
  filled : l.fresh = true → l.entries ≠ []
  inside : ∀ i, some i ∈ l.outstanding → i < l.entries.length

theorem sound_start : Sound .start 0 := ⟨rfl, by simp [Ledger.start], by simp [Ledger.start]⟩

theorem addTo_length (entry : Option Nat) (lines : List Text) (entries : List CommandHistoryEntry) :
    (addTo entry lines entries).length = entries.length := by
  cases entry with
  | none => rfl
  | some i => exact List.length_modify _ _ _

theorem expect_mem {l : Ledger} {cmd : OvpnCommand} {entry other : Option Nat}
    (member : other ∈ l.expect cmd entry) : other ∈ l.outstanding ∨ other = entry := by
  unfold Ledger.expect at member
  split at member
  · exact Or.inl member
  · simpa using member

theorem sound_step {l : Ledger} {recorded : Nat} (sound : Sound l recorded) (s : ConsoleStep) :
    Sound (l.step s) (recorded + recordings [s]) := by
  obtain ⟨length, filled, inside⟩ := sound
  cases s with
  | record label cmd =>
    refine ⟨by simp [Ledger.step, recordings, length], by simp [Ledger.step], ?_⟩
    intro i member
    simp only [Ledger.step, List.length_append, List.length_singleton]
    rcases expect_mem member with earlier | same
    · have := inside i earlier
      omega
    · cases same
      omega
  | send cmd =>
    refine ⟨length, filled, ?_⟩
    intro i member
    rcases expect_mem member with earlier | same
    · exact inside i earlier
    · cases same
  | respond response =>
    refine ⟨(addTo_length _ _ _).trans length, by simp [Ledger.step], ?_⟩
    intro i member
    rw [Ledger.step, addTo_length]
    exact inside i (List.mem_of_mem_tail member)

theorem ledger_snoc (steps : List ConsoleStep) (s : ConsoleStep) :
    ledger (steps ++ [s]) = (ledger steps).step s := by
  simp [ledger]

theorem sound_ledger (steps : List ConsoleStep) : Sound (ledger steps) (recordings steps) := by
  induction steps using List.reverseRecOn with
  | nil => exact sound_start
  | append_singleton front s ih =>
    have sound := sound_step ih s
    rw [ledger_snoc]
    simpa [recordings] using sound

theorem answered_inside {l : Ledger} {recorded : Nat} (sound : Sound l recorded) (i : Nat)
    (answered : l.answered = some i) : i < l.entries.length := by
  apply sound.inside
  unfold Ledger.answered at answered
  cases shape : l.outstanding with
  | nil =>
    rw [shape] at answered
    cases answered
  | cons entry rest =>
    rw [shape] at answered
    change entry = some i at answered
    simp [answered]

theorem freshEntry_inside {l : Ledger} {recorded : Nat} (sound : Sound l recorded) (i : Nat)
    (last : l.freshEntry = some i) : i < l.entries.length := by
  unfold Ledger.freshEntry at last
  split at last
  · rename_i fresh
    have := List.length_pos_of_ne_nil (sound.filled fresh)
    cases last
    omega
  · cases last

/-! The console against its ledger -/

/-- A response goes where the ledger has it exactly if it comes in its turn. -/
theorem respond_agrees_iff {app after : App} {l : Ledger} {recorded : Nat} (sound : Sound l recorded)
    (history : app.commandHistory = l.entries) (waiting : app.awaitingCommandResponse = l.fresh)
    {response : Response} (handled : consoleStep app (.respond response) = .ok after) :
    after.commandHistory = (l.step (.respond response)).entries ↔ InTurn l response := by
  obtain ⟨_, also, lands, _⟩ := respond_lands app response
  cases handled.symm.trans also
  have placed : landed app response.shown = addTo l.freshEntry response.shown l.entries := by
    unfold landed Ledger.freshEntry
    rw [waiting, history]
    split
    · rename_i fresh
      exact modifyLast_eq_addTo (sound.filled fresh)
    · rfl
  rw [lands, placed, Ledger.step, InTurn]
  by_cases empty : response.shown = []
  · rw [empty]
    simp [addTo_nil]
  · rw [addTo_inj empty (freshEntry_inside sound) (answered_inside sound), eq_comm]
    simp [empty]

theorem recordings_append (a b : List ConsoleStep) :
    recordings (a ++ b) = recordings a + recordings b := by
  simp [recordings]

theorem keepLast_small {α : Type} {most : Nat} {l : List α} (small : l.length ≤ most) :
    keepLast most l = l := by
  have nothing : l.length - most = 0 := by omega
  rw [keepLast, nothing, List.drop_zero]

theorem consoleRun_snoc (app : App) (steps : List ConsoleStep) (s : ConsoleStep) :
    consoleRun app (steps ++ [s]) = consoleRun app steps >>= fun next => consoleStep next s := by
  simp [consoleRun, List.foldlM_append]

theorem run_waits (app : App) (steps : List ConsoleStep) :
    ∃ after, consoleRun app.resetSessionData steps = .ok after ∧
      after.awaitingCommandResponse = (ledger steps).fresh := by
  induction steps using List.reverseRecOn with
  | nil => exact ⟨_, rfl, rfl⟩
  | append_singleton front s ih =>
    obtain ⟨next, handled, waiting⟩ := ih
    rw [consoleRun_snoc, handled, ledger_snoc, ok_bind]
    cases s with
    | record label cmd => exact ⟨_, rfl, rfl⟩
    | send cmd => exact ⟨next, rfl, waiting⟩
    | respond response =>
      obtain ⟨after, step, _, quiet⟩ := respond_lands next response
      exact ⟨after, step, quiet⟩

theorem step_lands {app : App} {front : List ConsoleStep} (lands : Lands app front)
    (s : ConsoleStep) (few : recordings (front ++ [s]) < maxCommandHistory) :
    Lands app (front ++ [s]) ↔ ∀ response, s = .respond response → InTurn (ledger front) response := by
  obtain ⟨next, handled, history⟩ := lands
  obtain ⟨same, again, waiting⟩ := run_waits app front
  cases handled.symm.trans again
  have sound := sound_ledger front
  unfold Lands
  rw [consoleRun_snoc, handled, ledger_snoc, ok_bind]
  cases s with
  | record label cmd =>
    refine iff_of_true ⟨_, rfl, ?_⟩ (by simp)
    let entry : CommandHistoryEntry := ⟨label, []⟩
    have room : (next.commandHistory ++ [entry]).length ≤ maxCommandHistory := by
      rw [recordings_append] at few
      rw [List.length_append, history, sound.length]
      exact Nat.le_of_lt few
    rw [App.record, keepLast_small room, history]
    rfl
  | send cmd => exact iff_of_true ⟨next, rfl, history⟩ (by simp)
  | respond response =>
    obtain ⟨after, step, _, _⟩ := respond_lands next response
    have agrees := respond_agrees_iff sound history waiting step
    constructor
    · intro found other same
      cases same
      obtain ⟨last, reached, shown⟩ := found
      cases step.symm.trans reached
      exact agrees.mp shown
    · intro turns
      exact ⟨after, step, agrees.mpr (turns response rfl)⟩

/-- With fewer recordings than the history holds, in every state of a run every entry has the lines
    of its own responses exactly if every response comes in its turn. -/
theorem console_lands_iff (app : App) (steps : List ConsoleStep)
    (few : recordings steps < maxCommandHistory) :
    (∀ front back, steps = front ++ back → Lands app front) ↔
      ∀ front response back, steps = front ++ .respond response :: back →
        InTurn (ledger front) response := by
  constructor
  · intro lands front response back shape
    have before := lands front _ shape
    have after := lands (front ++ [.respond response]) back (by simp [shape])
    have small : recordings (front ++ [.respond response]) < maxCommandHistory := by
      rw [shape, recordings_append] at few
      rw [recordings_append]
      have : recordings [.respond response] = 0 := rfl
      omega
    exact (step_lands before _ small).mp after response rfl
  · intro turns front
    induction front using List.reverseRecOn with
    | nil => exact fun _ _ => ⟨_, rfl, rfl⟩
    | append_singleton earlier s ih =>
      intro back shape
      have small : recordings (earlier ++ [s]) < maxCommandHistory := by
        rw [shape, recordings_append] at few
        omega
      have before := ih ([s] ++ back) (by simp [shape])
      apply (step_lands before s small).mpr
      intro response same
      exact turns earlier response back (by simp [shape, same])

theorem console_lands_one :
    Lands App.new [.record (lit "pid") .pid, .respond (.success (lit "pid=7"))] := by
  apply (console_lands_iff App.new _ (by decide +kernel)).mpr _ _ [] (List.append_nil _).symm
  intro front response back shape
  rcases front with _ | ⟨first, _ | ⟨second, _ | ⟨third, rest⟩⟩⟩
  · cases shape
  · cases shape
    exact Or.inr (by decide +kernel)
  · cases shape
  · cases shape

def twoWaiting : List ConsoleStep :=
  [.record (lit "pid") .pid, .record (lit "version") .version, .respond (.success (lit "pid=7")),
    .respond (.multiLine [lit "OpenVPN Version: 2.6"])]

/-- The first response lands under the second command and the second one is lost. -/
theorem responses_shift :
    (ledger twoWaiting).outstanding = [] ∧
      (ledger twoWaiting).entries =
        [⟨lit "pid", [lit "SUCCESS: pid=7"]⟩, ⟨lit "version", [lit "  OpenVPN Version: 2.6"]⟩] ∧
      (consoleRun App.new.resetSessionData twoWaiting).toOption.map App.commandHistory =
        some [⟨lit "pid", []⟩, ⟨lit "version", [lit "SUCCESS: pid=7"]⟩] := by
  decide +kernel

/-! Patience -/

/- While no response has come since the last recording, that command is the next one answered, and
   the others that wait were not recorded. -/
def Patient (l : Ledger) : Prop :=
  ∃ rest, l.outstanding = l.freshEntry.toList.map some ++ rest ∧ ∀ entry ∈ rest, entry = none

theorem patient_inTurn {l : Ledger} (patient : Patient l) (response : Response) :
    InTurn l response := by
  obtain ⟨rest, shape, unrecorded⟩ := patient
  right
  rw [Ledger.answered, shape]
  cases l.freshEntry with
  | some i => rfl
  | none =>
    cases rest with
    | nil => rfl
    | cons entry more =>
      have absent := unrecorded entry (by simp)
      rw [absent]
      rfl

theorem patient_step {l : Ledger} (patient : Patient l) (s : ConsoleStep)
    (waits : ∀ label cmd, s = .record label cmd →
      l.outstanding = [] ∧ cmd.expectedResponse ≠ .noResponse) : Patient (l.step s) := by
  obtain ⟨rest, shape, unrecorded⟩ := patient
  cases s with
  | record label cmd =>
    obtain ⟨empty, answers⟩ := waits label cmd rfl
    refine ⟨[], ?_, by simp⟩
    simp [Ledger.step, Ledger.expect, Ledger.freshEntry, empty, answers]
  | send cmd =>
    by_cases answers : cmd.expectedResponse = .noResponse
    · exact ⟨rest, by simpa [Ledger.step, Ledger.expect, answers] using shape, unrecorded⟩
    · refine ⟨rest ++ [none], ?_, ?_⟩
      · simp only [Ledger.step, Ledger.expect, if_neg answers, shape, List.append_assoc]
        rfl
      · intro entry member
        rcases List.mem_append.mp member with earlier | last
        · exact unrecorded entry earlier
        · exact List.mem_singleton.mp last
  | respond response =>
    refine ⟨l.outstanding.tail, rfl, ?_⟩
    intro entry member
    rw [shape] at member
    cases fresh : l.freshEntry with
    | some i =>
      rw [fresh] at member
      exact unrecorded entry member
    | none =>
      rw [fresh] at member
      exact unrecorded entry (List.mem_of_mem_tail member)

/-- Nothing is misplaced if every recorded command is one that is answered, and is sent when no
    answer is due. -/
theorem patient_console_lands (app : App) (steps : List ConsoleStep)
    (few : recordings steps < maxCommandHistory)
    (waits : ∀ front label cmd back, steps = front ++ .record label cmd :: back →
      (ledger front).outstanding = [] ∧ cmd.expectedResponse ≠ .noResponse) :
    Lands app steps := by
  suffices both : Patient (ledger steps) ∧ Lands app steps from both.2
  induction steps using List.reverseRecOn with
  | nil => exact ⟨⟨[], rfl, by simp⟩, _, rfl, rfl⟩
  | append_singleton front s ih =>
    have small : recordings front < maxCommandHistory := by
      rw [recordings_append] at few
      omega
    obtain ⟨patient, lands⟩ := ih small fun earlier label cmd back shape =>
      waits earlier label cmd (back ++ [s]) (by simp [shape])
    constructor
    · rw [ledger_snoc]
      apply patient_step patient
      intro label cmd same
      exact waits front label cmd [] (by rw [same])
    · apply (step_lands lands s few).mpr
      intro response _
      exact patient_inTurn patient response

end MgmtConsole
