import Mathlib.Data.List.Nodup

/-!
A list of keys kept from events that let a key in or out: it is the keys that entered and have not
left since.
-/
namespace Roster
universe u v
variable {κ : Type u} {ε : Type v}

inductive Change (κ : Type u) where
  | enters (key : κ)
  | leaves (key : κ)
  | keeps
  deriving DecidableEq, Repr

def apply [DecidableEq κ] (keys : List κ) : Change κ → List κ
  | .enters key => if key ∈ keys then keys else keys ++ [key]
  | .leaves key => keys.filter (· ≠ key)
  | .keeps => keys

variable (change : ε → Change κ)

/- The key entered, and has not left since. -/
def Present (events : List ε) (key : κ) : Prop :=
  ∃ before event after, events = before ++ event :: after ∧ change event = .enters key ∧
    ∀ later ∈ after, change later ≠ .leaves key

theorem not_present_nil (key : κ) : ¬ Present change [] key := by
  intro present
  obtain ⟨before, event, after, shape, _⟩ := present
  cases before <;> cases shape

theorem present_snoc (events : List ε) (last : ε) (key : κ) :
    Present change (events ++ [last]) key ↔
      change last = .enters key ∨ Present change events key ∧ change last ≠ .leaves key := by
  constructor
  · intro present
    obtain ⟨before, event, after, shape, entered, stayed⟩ := present
    rcases List.eq_nil_or_concat after with empty | ⟨front, final, whole⟩
    · subst empty
      have same := (List.append_inj' shape rfl).2
      cases same
      exact Or.inl entered
    · subst whole
      rw [List.concat_eq_append, ← List.cons_append, ← List.append_assoc] at shape
      obtain ⟨earlier, same⟩ := List.append_inj' shape rfl
      cases same
      right
      constructor
      · refine ⟨before, event, front, earlier, entered, ?_⟩
        intro later member
        exact stayed later (by simp [member])
      · exact stayed last (by simp)
  · intro recent
    rcases recent with entered | ⟨⟨before, event, after, shape, entered, stayed⟩, stays⟩
    · exact ⟨events, last, [], rfl, entered, by simp⟩
    · refine ⟨before, event, after ++ [last], by simp [shape], entered, ?_⟩
      intro later member
      rcases List.mem_append.mp member with earlier | final
      · exact stayed later earlier
      · cases List.mem_singleton.mp final
        exact stays

structure Tracks (keys : List κ) (events : List ε) : Prop where
  nodup : keys.Nodup
  mem_iff : ∀ key, key ∈ keys ↔ Present change events key

variable {change}

theorem tracks_nil : Tracks change [] [] := by
  refine ⟨List.nodup_nil, ?_⟩
  intro key
  exact iff_of_false (by simp) (not_present_nil change key)

theorem Tracks.same {keys : List κ} {events : List ε} {last : ε}
    (tracks : Tracks change keys events)
    (known : ∀ key, change last = .enters key → key ∈ keys)
    (stays : ∀ key, change last ≠ .leaves key) : Tracks change keys (events ++ [last]) := by
  refine ⟨tracks.nodup, ?_⟩
  intro key
  rw [present_snoc, ← tracks.mem_iff]
  constructor
  · intro inside
    exact Or.inr ⟨inside, stays key⟩
  · intro recent
    exact recent.elim (known key) And.left

theorem Tracks.added {keys : List κ} {events : List ε} {last : ε} {new : κ}
    (tracks : Tracks change keys events) (entered : change last = .enters new)
    (fresh : new ∉ keys) : Tracks change (keys ++ [new]) (events ++ [last]) := by
  constructor
  · rw [List.nodup_append]
    refine ⟨tracks.nodup, List.nodup_singleton new, ?_⟩
    intro key member other single same
    rw [List.mem_singleton.mp single] at same
    exact fresh (same ▸ member)
  · intro key
    rw [present_snoc, ← tracks.mem_iff, entered, List.mem_append, List.mem_singleton]
    constructor
    · intro inside
      rcases inside with earlier | same
      · exact Or.inr ⟨earlier, by simp⟩
      · exact Or.inl (same ▸ rfl)
    · intro recent
      rcases recent with same | ⟨earlier, _⟩
      · cases same
        exact Or.inr rfl
      · exact Or.inl earlier

theorem Tracks.removed [DecidableEq κ] {keys : List κ} {events : List ε} {last : ε} {gone : κ}
    (tracks : Tracks change keys events) (left : change last = .leaves gone) :
    Tracks change (keys.filter (· ≠ gone)) (events ++ [last]) := by
  refine ⟨tracks.nodup.filter _, ?_⟩
  intro key
  rw [present_snoc, ← tracks.mem_iff, left, List.mem_filter]
  constructor
  · intro kept
    refine Or.inr ⟨kept.1, ?_⟩
    intro same
    cases same
    exact absurd kept.2 (by simp)
  · intro recent
    rcases recent with impossible | ⟨inside, other⟩
    · cases impossible
    · refine ⟨inside, ?_⟩
      simp only [ne_eq, decide_eq_true_eq]
      intro same
      exact other (same ▸ rfl)

variable [DecidableEq κ]

theorem Tracks.step {keys : List κ} {events : List ε} (tracks : Tracks change keys events)
    (last : ε) : Tracks change (apply keys (change last)) (events ++ [last]) := by
  cases effect : change last with
  | keeps => exact tracks.same (by simp [effect]) (by simp [effect])
  | leaves gone => exact tracks.removed effect
  | enters new =>
    by_cases known : new ∈ keys
    · rw [apply, if_pos known]
      apply tracks.same
      · intro key entered
        rw [effect] at entered
        cases entered
        exact known
      · simp [effect]
    · rw [apply, if_neg known]
      exact tracks.added effect known

theorem Tracks.run {keys : List κ} {events : List ε} (tracks : Tracks change keys events)
    (more : List ε) :
    Tracks change (more.foldl (fun keys event => apply keys (change event)) keys)
      (events ++ more) := by
  induction more generalizing keys events with
  | nil => simpa using tracks
  | cons event more ih =>
    have rest := ih (tracks.step event)
    rw [List.append_assoc] at rest
    exact rest

/-- Kept from the start, the keys track the events. -/
theorem tracks_events (events : List ε) :
    Tracks change (events.foldl (fun keys event => apply keys (change event)) []) events :=
  tracks_nil.run events

end Roster
