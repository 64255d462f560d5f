import OpenvpnMgmt.EventStream

/-!
The two readers of an event stream over a transport whose events are known. `next` prefers the
stash and `recvResponse` reads the transport only; whatever the order of the calls, notifications
and the other messages each come out in the order of the wire, and none is lost or doubled.
-/
namespace MgmtDelivery
open TextOps MgmtMessage MgmtFrame MgmtDraining MgmtEventStream

/- What polling the transport gives, one item a poll; `none` is the end of the stream. -/
abbrev Transport := List (Option Event)

def pollTransport : Transport → Transport × Option Event
  | [] => ([], none)
  | item :: rest => (rest, item)

abbrev Stream := EventStream Transport

def recvResponse (s : Stream) : Stream × Except SessionError OvpnMessage :=
  recvResponseFuel pollTransport (s.inner.length + 1) s

inductive Read where
  | next
  | recvResponse
  | drainNotifications

def gotNext : Option (Except IoError ManagementEvent) → List Event
  | none => []
  | some event => [event.map ManagementEvent.message]

def gotResponse : Except SessionError OvpnMessage → List Event
  | .ok message => [.ok message]
  | .error (.io (.decode e)) => [.error e]
  | .error _ => []

def read (s : Stream) : Read → Stream × List Event
  | .next => ((s.pollNext pollTransport).1, gotNext (s.pollNext pollTransport).2)
  | .recvResponse => ((recvResponse s).1, gotResponse (recvResponse s).2)
  | .drainNotifications => (s.drainNotifications.1, s.drainNotifications.2.map (.ok ∘ .notification))

def readAll : Stream → List Read → Stream × List Event
  | s, [] => (s, [])
  | s, r :: more =>
    let (next, out) := read s r
    let (last, later) := readAll next more
    (last, out ++ later)

/-! Notifications and the rest -/

def noteOf : Event → Option Notification
  | .ok (.notification n) => some n
  | _ => none

def notesOf (events : List Event) : List Notification := events.filterMap noteOf

def othersOf (events : List Event) : List Event := events.filter fun event => (noteOf event).isNone

def leftIn (transport : Transport) : List Event := transport.filterMap id

theorem notesOf_append (a b : List Event) : notesOf (a ++ b) = notesOf a ++ notesOf b :=
  List.filterMap_append

theorem othersOf_append (a b : List Event) : othersOf (a ++ b) = othersOf a ++ othersOf b :=
  List.filter_append a b

theorem notesOf_notes (notes : List Notification) :
    notesOf (notes.map (.ok ∘ .notification)) = notes := by
  induction notes with
  | nil => rfl
  | cons n more ih =>
    have later := congrArg (n :: ·) ih
    exact later

theorem othersOf_notes (notes : List Notification) :
    othersOf (notes.map (.ok ∘ .notification)) = [] := by
  induction notes with
  | nil => rfl
  | cons n more ih => exact ih

/-- How the loop of `recvResponse` ends: at a message that is no notification, at an error, or at
    the end of the stream. -/
inductive Ends : Transport → Transport → Except SessionError OvpnMessage → Prop
  | response {message : OvpnMessage} (other : heard message) (rest : Transport) :
    Ends (some (.ok message) :: rest) rest (.ok message)
  | failed (e : IoError) (rest : Transport) :
    Ends (some (.error e) :: rest) rest (.error (.io (.decode e)))
  | closed (rest : Transport) : Ends (none :: rest) rest (.error .connectionClosed)
  | exhausted : Ends [] [] (.error .connectionClosed)

def noteItems (notes : List Notification) : Transport := notes.map fun n => some (.ok (.notification n))

/-- The loop stashes the notifications in front of its end, in order, however it ends. -/
theorem recvResponseFuel_spec {fuel : Nat} (s : Stream) (enough : s.inner.length < fuel) :
    ∃ skipped tail, s.inner = noteItems skipped ++ tail ∧
      (recvResponseFuel pollTransport fuel s).1.stash = s.stash ++ skipped ∧
      Ends tail (recvResponseFuel pollTransport fuel s).1.inner
        (recvResponseFuel pollTransport fuel s).2 := by
  induction fuel generalizing s with
  | zero => omega
  | succ fuel ih =>
    obtain ⟨transport, stash⟩ := s
    rcases transport with _ | ⟨_ | e | message, rest⟩
    · exact ⟨[], [], rfl, (List.append_nil _).symm, .exhausted⟩
    · exact ⟨[], _, rfl, (List.append_nil _).symm, .closed rest⟩
    · exact ⟨[], _, rfl, (List.append_nil _).symm, .failed e rest⟩
    · cases message with
      | notification n =>
        obtain ⟨skipped, tail, shape, stashed, ends⟩ := ih ⟨rest, stash ++ [n]⟩ (by simp at enough ⊢; omega)
        refine ⟨n :: skipped, tail, ?_, ?_, ends⟩
        · simp only at shape
          rw [shape]
          rfl
        · rw [List.append_assoc] at stashed
          exact stashed
      | _ => exact ⟨[], _, rfl, (List.append_nil _).symm, .response rfl rest⟩

theorem recvResponse_spec (s : Stream) :
    ∃ skipped tail, s.inner = noteItems skipped ++ tail ∧
      (recvResponse s).1.stash = s.stash ++ skipped ∧
      Ends tail (recvResponse s).1.inner (recvResponse s).2 :=
  recvResponseFuel_spec s (Nat.lt_succ_self s.inner.length)

theorem left_notes (notes : List Notification) (tail : Transport) :
    leftIn (noteItems notes ++ tail) = notes.map (.ok ∘ .notification) ++ leftIn tail := by
  rw [leftIn, List.filterMap_append, noteItems, List.filterMap_map]
  congr 1
  induction notes with
  | nil => rfl
  | cons n more ih => exact congrArg (_ :: ·) ih

theorem ends_left {tail after : Transport} {out : Except SessionError OvpnMessage}
    (ends : Ends tail after out) :
    leftIn tail = gotResponse out ++ leftIn after ∧ notesOf (gotResponse out) = [] ∧
      othersOf (gotResponse out) = gotResponse out := by
  cases ends with
  | @response message other rest =>
    refine ⟨rfl, ?_, ?_⟩
    · cases message <;> first | rfl | cases other
    · cases message <;> first | rfl | cases other
  | failed | closed | exhausted => exact ⟨rfl, rfl, rfl⟩

/-- What was got, the stash and the transport together are the events there were, notifications and
    the others each in their order. -/
structure Accounts (s after : Stream) (got : List Event) : Prop where
  notes : notesOf got ++ after.stash ++ notesOf (leftIn after.inner) =
    s.stash ++ notesOf (leftIn s.inner)
  others : othersOf got ++ othersOf (leftIn after.inner) = othersOf (leftIn s.inner)

theorem accounts_append {s mid after : Stream} {got later : List Event}
    (first : Accounts s mid got) (rest : Accounts mid after later) :
    Accounts s after (got ++ later) := by
  constructor
  · calc notesOf (got ++ later) ++ after.stash ++ notesOf (leftIn after.inner)
        = notesOf got ++ (notesOf later ++ after.stash ++ notesOf (leftIn after.inner)) := by
          simp [notesOf_append]
      _ = notesOf got ++ mid.stash ++ notesOf (leftIn mid.inner) := by
          rw [rest.notes, List.append_assoc]
      _ = s.stash ++ notesOf (leftIn s.inner) := first.notes
  · rw [othersOf_append, ← first.others, ← rest.others, List.append_assoc]

theorem recvResponse_accounts (s : Stream) :
    Accounts s (recvResponse s).1 (gotResponse (recvResponse s).2) := by
  obtain ⟨skipped, tail, shape, stashed, ends⟩ := recvResponse_spec s
  obtain ⟨same, silent, -⟩ := ends_left ends
  have left : leftIn s.inner = skipped.map (.ok ∘ .notification) ++
      (gotResponse (recvResponse s).2 ++ leftIn (recvResponse s).1.inner) := by
    rw [shape, left_notes, same]
  constructor
  · rw [left, stashed, notesOf_append, notesOf_append, notesOf_notes, silent, List.nil_append,
      List.nil_append, List.append_assoc]
  · rw [left, othersOf_append, othersOf_append, othersOf_notes, List.nil_append]

theorem recvResponse_first {s : Stream} {message : OvpnMessage}
    (received : (recvResponse s).2 = .ok message) :
    othersOf (leftIn s.inner) = .ok message :: othersOf (leftIn (recvResponse s).1.inner) := by
  obtain ⟨_, _, -, -, ends⟩ := recvResponse_spec s
  obtain ⟨-, -, whole⟩ := ends_left ends
  have others := (recvResponse_accounts s).others
  rw [received] at others whole
  rw [← others, whole]
  rfl

theorem ends_error {tail after : Transport} {e : SessionError} (ends : Ends tail after (.error e)) :
    e = .connectionClosed ∨ ∃ io, e = .io io := by
  cases ends with
  | failed e => exact Or.inr ⟨_, rfl⟩
  | closed | exhausted => exact Or.inl rfl

theorem read_accounts (s : Stream) (r : Read) : Accounts s (read s r).1 (read s r).2 := by
  cases r with
  | drainNotifications =>
    constructor
    · simp only [read, EventStream.drainNotifications, notesOf_notes, List.append_nil]
    · simp only [read, EventStream.drainNotifications, othersOf_notes, List.nil_append]
  | recvResponse => exact recvResponse_accounts s
  | next =>
    obtain ⟨transport, stash⟩ := s
    cases stash with
    | cons n rest => exact ⟨rfl, rfl⟩
    | nil =>
      rcases transport with _ | ⟨_ | e | message, rest⟩
      · exact ⟨rfl, rfl⟩
      · exact ⟨rfl, rfl⟩
      · exact ⟨rfl, rfl⟩
      · have event : (read ⟨some (.ok message) :: rest, []⟩ .next).2 = [.ok message] :=
          congrArg (fun m => [Except.ok m]) (ofMessage_message message)
        have left : leftIn (some (.ok message) :: rest) = [.ok message] ++ leftIn rest := rfl
        constructor
        · rw [event, left, notesOf_append]
          simp [read, EventStream.pollNext, pollTransport]
        · rw [event, left, othersOf_append]
          rfl

theorem readAll_accounts (s : Stream) (reads : List Read) :
    Accounts s (readAll s reads).1 (readAll s reads).2 := by
  induction reads generalizing s with
  | nil => exact ⟨rfl, rfl⟩
  | cons r more ih => exact accounts_append (read_accounts s r) (ih (read s r).1)

/-- After any calls, what was handed out, the stash and the transport are the events of the wire,
    each of the two kinds in wire order; a response that is received next is the first that is
    still due, and whatever `recvResponse` skips before it returns or fails is in the stash. -/
theorem events_delivered_once (transport : Transport) (reads : List Read) :
    let r := readAll ⟨transport, []⟩ reads
    let after := (recvResponse r.1).1
    let out := (recvResponse r.1).2
    notesOf r.2 ++ r.1.stash ++ notesOf (leftIn r.1.inner) = notesOf (leftIn transport) ∧
      othersOf r.2 ++ othersOf (leftIn r.1.inner) = othersOf (leftIn transport) ∧
      (∀ message, out = .ok message →
        othersOf (leftIn r.1.inner) = .ok message :: othersOf (leftIn after.inner)) ∧
      (∀ e, out = .error e → e = .connectionClosed ∨ ∃ io, e = .io io) ∧
      ∃ skipped tail, r.1.inner = noteItems skipped ++ tail ∧
        after.stash = r.1.stash ++ skipped ∧ Ends tail after.inner out := by
  intro r after out
  have whole := readAll_accounts ⟨transport, []⟩ reads
  obtain ⟨skipped, tail, shape, stashed, ends⟩ := recvResponse_spec r.1
  refine ⟨whole.notes, whole.others, fun _ => recvResponse_first, ?_,
    skipped, tail, shape, stashed, ends⟩
  intro e failed
  have failed : (recvResponse r.1).2 = .error e := failed
  rw [failed] at ends
  exact ends_error ends

end MgmtDelivery
