import OpenvpnMgmt.Delivery

/-!
The readers of an event stream as futures. A poll of the transport may find nothing yet, and then
the caller may drop the future instead of polling it again. Between two polls a `recv_response`
holds nothing of its own, what it has skipped is in the stash; so a dropped future takes nothing
with it, and a later one goes on where it was. An iterator over the stash that is dropped takes
the rest of the stash with it.
-/
namespace MgmtPolling
open TextOps MgmtMessage MgmtFrame MgmtDraining MgmtEventStream MgmtDelivery

inductive Poll (α : Type) where
  | pending
  | ready (value : α)

def Poll.map {α β : Type} (f : α → β) : Poll α → Poll β
  | .pending => .pending
  | .ready value => .ready (f value)

/- What the polls of a transport give; behind the last one it is closed. -/
abbrev Source := List (Poll (Option Event))

def pollSource : Source → Source × Poll (Option Event)
  | [] => ([], .ready none)
  | poll :: rest => (rest, poll)

abbrev Suspended := EventStream Source

def pollNext (s : Suspended) : Suspended × Poll (Option (Except IoError ManagementEvent)) :=
  match s.stash with
  | n :: rest => (⟨s.inner, rest⟩, .ready (some (.ok (.notification n))))
  | [] =>
    let (inner, poll) := pollSource s.inner
    (⟨inner, []⟩, poll.map fun out => out.map fun event => event.map ManagementEvent.ofMessage)

/- One poll of the future of `recv_response`: its loop, until the transport has nothing yet. -/
def pollRecvResponse (stash : List Notification) :
    Source → Suspended × Poll (Except SessionError OvpnMessage)
  | [] => (⟨[], stash⟩, .ready (.error .connectionClosed))
  | .pending :: rest => (⟨rest, stash⟩, .pending)
  | .ready none :: rest => (⟨rest, stash⟩, .ready (.error .connectionClosed))
  | .ready (some (.error e)) :: rest => (⟨rest, stash⟩, .ready (.error (.io (.decode e))))
  | .ready (some (.ok (.notification n))) :: rest => pollRecvResponse (stash ++ [n]) rest
  | .ready (some (.ok other)) :: rest => (⟨rest, stash⟩, .ready (.ok other))

/- `next` and `recv_response`; the other readers only look at what `recv_response` returns. -/
inductive Future where
  | next
  | recvResponse

def Future.read : Future → Read
  | .next => .next
  | .recvResponse => .recvResponse

/- One poll; whether of a future that was polled before or of a fresh one is all the same. -/
def poll (s : Suspended) : Future → Suspended × Poll (List Event)
  | .next => ((pollNext s).1, (pollNext s).2.map gotNext)
  | .recvResponse =>
    ((pollRecvResponse s.stash s.inner).1, (pollRecvResponse s.stash s.inner).2.map gotResponse)

/-! Without the waiting -/

def settledItem : Poll (Option Event) → Option (Option Event)
  | .pending => none
  | .ready item => some item

def settledSource (source : Source) : Transport := source.filterMap settledItem

def settled (s : Suspended) : Stream := ⟨settledSource s.inner, s.stash⟩

theorem settledSource_pending (rest : Source) :
    settledSource (.pending :: rest) = settledSource rest := rfl

theorem settledSource_ready (item : Option Event) (rest : Source) :
    settledSource (.ready item :: rest) = item :: settledSource rest := rfl

/-- A poll of `recv_response` stashes the notifications that have come and stops behind them, where
    it waits or where the whole loop would have ended. -/
theorem pollRecvResponse_spec (stash : List Notification) (source : Source) :
    ∃ skipped tail, settledSource source = noteItems skipped ++ tail ∧
      (pollRecvResponse stash source).1.stash = stash ++ skipped ∧
      match (pollRecvResponse stash source).2 with
      | .pending => tail = settledSource (pollRecvResponse stash source).1.inner
      | .ready out => Ends tail (settledSource (pollRecvResponse stash source).1.inner) out := by
  induction source generalizing stash with
  | nil => exact ⟨[], [], rfl, (List.append_nil _).symm, .exhausted⟩
  | cons item rest ih =>
    rcases item with _ | _ | e | message
    · exact ⟨[], _, rfl, (List.append_nil _).symm, rfl⟩
    · exact ⟨[], _, rfl, (List.append_nil _).symm, .closed _⟩
    · exact ⟨[], _, rfl, (List.append_nil _).symm, .failed e _⟩
    · cases message with
      | notification n =>
        obtain ⟨skipped, tail, shape, stashed, ends⟩ := ih (stash ++ [n])
        refine ⟨n :: skipped, tail, ?_, ?_, ends⟩
        · rw [settledSource_ready, shape]
          rfl
        · rw [List.append_assoc] at stashed
          exact stashed
      | _ => exact ⟨[], _, rfl, (List.append_nil _).symm, .response rfl _⟩

theorem pollNext_stashed {s : Suspended} {n : Notification} {rest : List Notification}
    (stash : s.stash = n :: rest) :
    poll s .next = (⟨s.inner, rest⟩, .ready [.ok (.notification n)]) := by
  simp only [poll, pollNext, stash]
  rfl

/-! Dropped futures -/

theorem recvResponse_ends {tail after : Transport} {out : Except SessionError OvpnMessage}
    (ends : Ends tail after out) (stash skipped : List Notification) :
    recvResponse ⟨noteItems skipped ++ tail, stash⟩ = (⟨after, stash ++ skipped⟩, out) := by
  have fuel : ∀ spare, recvResponseFuel pollTransport (skipped.length + spare + 1)
      ⟨noteItems skipped ++ tail, stash⟩ = (⟨after, stash ++ skipped⟩, out) := by
    induction skipped generalizing stash with
    | nil =>
      intro spare
      rw [List.append_nil]
      cases ends with
      | @response message other rest =>
        cases message <;> first | rfl | cases other
      | failed | closed | exhausted => rfl
    | cons n more ih =>
      intro spare
      have next := ih (stash ++ [n]) spare
      rw [List.append_assoc] at next
      rw [List.length_cons, show more.length + 1 + spare + 1 = more.length + spare + 1 + 1 by omega]
      exact next
  have enough := fuel tail.length
  rw [recvResponse, List.length_append, noteItems, List.length_map]
  exact enough

/-- One stream has stashed notifications that the other still has in front of it. -/
def Ahead (a b : Stream) : Prop :=
  ∃ notes, a.stash = b.stash ++ notes ∧ b.inner = noteItems notes ++ a.inner

theorem ahead_refl (s : Stream) : Ahead s s := ⟨[], (List.append_nil _).symm, rfl⟩

theorem next_ahead {s : Suspended} {b : Stream} (ahead : Ahead (settled s) b) :
    match (poll s .next).2 with
    | .pending => Ahead (settled (poll s .next).1) b
    | .ready got => (read b .next).2 = got ∧ Ahead (settled (poll s .next).1) (read b .next).1 := by
  obtain ⟨notes, stashed, shape⟩ := ahead
  obtain ⟨transport, stash⟩ := b
  cases stash with
  | cons n more =>
    rw [pollNext_stashed stashed]
    exact ⟨rfl, notes, rfl, shape⟩
  | nil =>
    cases notes with
    | cons n more =>
      rw [pollNext_stashed stashed]
      simp only at shape
      subst shape
      exact ⟨rfl, more, rfl, rfl⟩
    | nil =>
      obtain ⟨source, stash⟩ := s
      simp only at shape
      cases stashed
      subst shape
      rcases source with _ | ⟨_ | item, rest⟩
      · exact ⟨rfl, ahead_refl _⟩
      · exact ahead_refl _
      · exact ⟨rfl, ahead_refl _⟩

theorem recvResponse_ahead {s : Suspended} {b : Stream} (ahead : Ahead (settled s) b) :
    match (poll s .recvResponse).2 with
    | .pending => Ahead (settled (poll s .recvResponse).1) b
    | .ready got => (read b .recvResponse).2 = got ∧
        Ahead (settled (poll s .recvResponse).1) (read b .recvResponse).1 := by
  obtain ⟨notes, stashed, shape⟩ := ahead
  obtain ⟨transport, stash⟩ := b
  obtain ⟨skipped, tail, cut, grown, ends⟩ := pollRecvResponse_spec s.stash s.inner
  have together : transport = noteItems (notes ++ skipped) ++ tail := by
    have split : noteItems (notes ++ skipped) = noteItems notes ++ noteItems skipped :=
      List.map_append
    rw [split, List.append_assoc, ← cut]
    exact shape
  have kept : (pollRecvResponse s.stash s.inner).1.stash = stash ++ (notes ++ skipped) := by
    rw [grown, ← List.append_assoc]
    exact congrArg (· ++ skipped) stashed
  simp only [poll]
  cases polled : (pollRecvResponse s.stash s.inner).2 with
  | pending =>
    rw [polled] at ends
    exact ⟨notes ++ skipped, kept, by rw [together, ends]; rfl⟩
  | ready out =>
    rw [polled] at ends
    have whole := recvResponse_ends ends stash (notes ++ skipped)
    rw [← together] at whole
    simp only [Poll.map, MgmtDelivery.read, whole]
    exact ⟨trivial, [], kept.trans (List.append_nil _).symm, rfl⟩

/-- A poll that is not ready leaves the stream as good as it was; one that is ready is the call. -/
theorem poll_ahead {s : Suspended} {b : Stream} (ahead : Ahead (settled s) b) (future : Future) :
    match (poll s future).2 with
    | .pending => Ahead (settled (poll s future).1) b
    | .ready got => (read b future.read).2 = got ∧
        Ahead (settled (poll s future).1) (read b future.read).1 := by
  cases future with
  | next => exact next_ahead ahead
  | recvResponse => exact recvResponse_ahead ahead

def pollAll : Suspended → List Future → Suspended × List Read × List Event
  | s, [] => (s, [], [])
  | s, future :: more =>
    let (last, reads, later) := pollAll (poll s future).1 more
    match (poll s future).2 with
    | .pending => (last, reads, later)
    | .ready got => (last, future.read :: reads, got ++ later)

theorem pollAll_ahead {s : Suspended} {b : Stream} (ahead : Ahead (settled s) b)
    (futures : List Future) :
    (readAll b (pollAll s futures).2.1).2 = (pollAll s futures).2.2 ∧
      Ahead (settled (pollAll s futures).1) (readAll b (pollAll s futures).2.1).1 := by
  induction futures generalizing s b with
  | nil => exact ⟨rfl, ahead⟩
  | cons future more ih =>
    have first := poll_ahead ahead future
    simp only [pollAll]
    cases polled : (poll s future).2 with
    | pending =>
      rw [polled] at first
      exact ih first
    | ready got =>
      rw [polled] at first
      obtain ⟨same, next⟩ := first
      obtain ⟨later, last⟩ := ih next
      exact ⟨congrArg₂ (· ++ ·) same later, last⟩

/-- Whichever futures are polled in which order, however often a poll finds nothing and whichever
    futures are dropped then: those that get ready give what the same calls give without a wait and
    with no other call in between, and all that remains of the others is that notifications which
    were to be skipped are in the stash already. -/
theorem dropped_futures_invisible (s : Suspended) (futures : List Future) :
    let r := pollAll s futures
    let whole := readAll (settled s) r.2.1
    whole.2 = r.2.2 ∧ ∃ notes, r.1.stash = whole.1.stash ++ notes ∧
      whole.1.inner = noteItems notes ++ settledSource r.1.inner :=
  pollAll_ahead (ahead_refl (settled s)) futures

/-! Dropped iterators -/

/- An iterator over the stash gives some notifications before it is dropped. -/
inductive Use where
  | poll (future : Future)
  | drainNotifications (taken : Nat)

inductive Outcome where
  | given (event : Event)
  | dropped (n : Notification)

def Outcome.event : Outcome → Event
  | .given event => event
  | .dropped n => .ok (.notification n)

def use (s : Suspended) : Use → Suspended × List Outcome
  | .poll future =>
    match poll s future with
    | (next, .pending) => (next, [])
    | (next, .ready got) => (next, got.map .given)
  | .drainNotifications taken =>
    (⟨s.inner, []⟩, (s.stash.take taken).map (.given ∘ .ok ∘ .notification) ++
      (s.stash.drop taken).map .dropped)

def useAll : Suspended → List Use → Suspended × List Outcome
  | s, [] => (s, [])
  | s, u :: more =>
    let (last, later) := useAll (use s u).1 more
    (last, (use s u).2 ++ later)

def droppedOf : Outcome → Option Notification
  | .given _ => none
  | .dropped n => some n

def lost (log : List Outcome) : List Notification := log.filterMap droppedOf

def ReadOut : Suspended → List Use → Prop
  | _, [] => True
  | s, .poll future :: more => ReadOut (use s (.poll future)).1 more
  | s, .drainNotifications taken :: more =>
    s.stash.length ≤ taken ∧ ReadOut (use s (.drainNotifications taken)).1 more

theorem Ahead.accounts {s a b : Stream} {got : List Event} (ahead : Ahead a b)
    (accounts : Accounts s b got) : Accounts s a got := by
  obtain ⟨notes, stashed, shape⟩ := ahead
  have left : leftIn b.inner = notes.map (.ok ∘ .notification) ++ leftIn a.inner := by
    rw [shape, left_notes]
  constructor
  · rw [← accounts.notes, left, stashed, notesOf_append, notesOf_notes]
    simp only [List.append_assoc]
  · rw [← accounts.others, left, othersOf_append, othersOf_notes, List.nil_append]

theorem use_accounts (s : Suspended) (u : Use) :
    Accounts (settled s) (settled (use s u).1) ((use s u).2.map Outcome.event) := by
  cases u with
  | poll future =>
    have polled := poll_ahead (ahead_refl (settled s)) future
    have whole := read_accounts (settled s) future.read
    have nothing : Accounts (settled s) (settled s) [] := ⟨rfl, rfl⟩
    simp only [use]
    generalize poll s future = p at polled
    obtain ⟨next, _ | got⟩ := p
    · exact Ahead.accounts polled nothing
    · obtain ⟨same, ahead⟩ := polled
      have given : (got.map Outcome.given).map Outcome.event = got := by
        rw [List.map_map]
        exact List.map_id got
      rw [same] at whole
      simp only [given]
      exact ahead.accounts whole
  | drainNotifications taken =>
    have drained : (use s (.drainNotifications taken)).2.map Outcome.event =
        s.stash.map (.ok ∘ .notification) := by
      conv_rhs => rw [← List.take_append_drop taken s.stash, List.map_append]
      simp only [use, List.map_append, List.map_map]
      rfl
    have whole := read_accounts (settled s) .drainNotifications
    rw [drained]
    exact whole

theorem useAll_accounts (s : Suspended) (uses : List Use) :
    Accounts (settled s) (settled (useAll s uses).1) ((useAll s uses).2.map Outcome.event) := by
  induction uses generalizing s with
  | nil => exact ⟨rfl, rfl⟩
  | cons u more ih =>
    have both := accounts_append (use_accounts s u) (ih (use s u).1)
    rw [← List.map_append] at both
    exact both

theorem lost_given (events : List Event) : lost (events.map .given) = [] := by
  simp [lost, droppedOf]

theorem lost_dropped (notes : List Notification) : lost (notes.map .dropped) = notes := by
  induction notes with
  | nil => rfl
  | cons n more ih => exact congrArg (n :: ·) ih

theorem use_lost (s : Suspended) (u : Use) :
    lost (use s u).2 = match u with
      | .poll _ => []
      | .drainNotifications taken => s.stash.drop taken := by
  cases u with
  | poll future =>
    simp only [use]
    generalize poll s future = p
    obtain ⟨next, _ | got⟩ := p
    · rfl
    · exact lost_given got
  | drainNotifications taken =>
    have given : lost ((s.stash.take taken).map (.given ∘ .ok ∘ .notification)) = [] := by
      rw [← List.map_map]
      exact lost_given _
    calc lost (use s (.drainNotifications taken)).2
        = lost ((s.stash.take taken).map (.given ∘ .ok ∘ .notification)) ++
            lost ((s.stash.drop taken).map .dropped) := List.filterMap_append
      _ = s.stash.drop taken := by rw [given, lost_dropped, List.nil_append]

theorem useAll_lost (s : Suspended) (uses : List Use) :
    lost (useAll s uses).2 = [] ↔ ReadOut s uses := by
  induction uses generalizing s with
  | nil => simp [useAll, lost, ReadOut]
  | cons u more ih =>
    have parts : lost (useAll s (u :: more)).2 =
        lost (use s u).2 ++ lost (useAll (use s u).1 more).2 := List.filterMap_append
    rw [parts, List.append_eq_nil_iff, ih, use_lost]
    cases u with
    | poll future => simp [ReadOut]
    | drainNotifications taken => simp [ReadOut, List.drop_eq_nil_iff]

/-- However the readers are polled and dropped, everything that came is given to a caller, stashed,
    still in the transport, or dropped with an iterator: responses and errors in wire order without
    a gap, and the notifications in wire order too. Nothing is lost exactly if every iterator is
    read to its end; no future can lose anything. -/
theorem nothing_lost_iff (source : Source) (uses : List Use) :
    let r := useAll ⟨source, []⟩ uses
    let seen := r.2.map Outcome.event
    notesOf seen ++ r.1.stash ++ notesOf (leftIn (settledSource r.1.inner)) =
        notesOf (leftIn (settledSource source)) ∧
      othersOf seen ++ othersOf (leftIn (settledSource r.1.inner)) =
        othersOf (leftIn (settledSource source)) ∧
      (lost r.2 = [] ↔ ReadOut ⟨source, []⟩ uses) := by
  intro r seen
  have whole := useAll_accounts ⟨source, []⟩ uses
  exact ⟨whole.notes, whole.others, useAll_lost _ uses⟩

end MgmtPolling
