/-!
Results of computations that may fail: what every success of one satisfies, and how a success of
a composed computation comes about.
-/
namespace Results
variable {ε α β : Type}

def Ensures (p : α → Prop) (x : Except ε α) : Prop := ∀ a, x = .ok a → p a

theorem pure_ok (a : α) : (pure a : Except ε α) = .ok a := rfl

theorem ok_bind (a : α) (f : α → Except ε β) : (Except.ok a >>= f) = f a := rfl

theorem bind_eq_ok {x : Except ε α} {f : α → Except ε β} {b : β} :
    (x >>= f) = .ok b ↔ ∃ a, x = .ok a ∧ f a = .ok b := by
  cases x with
  | error e => exact iff_of_false (by rintro ⟨⟩) (by rintro ⟨_, ⟨⟩, _⟩)
  | ok a => exact ⟨fun rest => ⟨a, rfl, rest⟩, fun ⟨_, same, rest⟩ => by cases same; exact rest⟩

theorem map_eq_ok {x : Except ε α} {f : α → β} {b : β} :
    (f <$> x) = .ok b ↔ ∃ a, x = .ok a ∧ f a = b := by
  cases x with
  | error e => exact iff_of_false (by rintro ⟨⟩) (by rintro ⟨_, ⟨⟩, _⟩)
  | ok a => exact ⟨fun same => ⟨a, rfl, Except.ok.inj same⟩, by rintro ⟨_, ⟨⟩, rfl⟩; rfl⟩

theorem toOption_bind (x : Except ε α) (f : α → Except ε β) :
    (x >>= f).toOption = x.toOption.bind fun a => (f a).toOption := by
  cases x <;> rfl

theorem toOption_eq_some {x : Except ε α} {a : α} : x.toOption = some a ↔ x = .ok a := by
  cases x <;> simp [Except.toOption]

theorem ensures_ok {p : α → Prop} {a : α} (holds : p a) : Ensures p (.ok a : Except ε α) := by
  rintro _ ⟨⟩
  exact holds

theorem ensures_error {p : α → Prop} (e : ε) : Ensures p (.error e : Except ε α) := by
  rintro _ ⟨⟩

theorem Ensures.ite {p : α → Prop} {c : Prop} [Decidable c] {x y : Except ε α}
    (yes : Ensures p x) (no : ¬ c → Ensures p y) : Ensures p (if c then x else y) := by
  split
  · exact yes
  · exact no ‹_›

theorem ensures_bind {p : β → Prop} {x : Except ε α} {f : α → Except ε β}
    (all : ∀ a, x = .ok a → Ensures p (f a)) : Ensures p (x >>= f) := by
  intro b found
  obtain ⟨a, first, rest⟩ := bind_eq_ok.mp found
  exact all a first b rest

theorem ensures_map {p : β → Prop} {x : Except ε α} {f : α → β} (all : ∀ a, p (f a)) :
    Ensures p (f <$> x) := by
  intro b found
  obtain ⟨a, -, rfl⟩ := map_eq_ok.mp found
  exact all a

def Completes (x : Except ε α) : Prop := ∃ a, x = .ok a

@[simp] theorem completes_ok (a : α) : Completes (.ok a : Except ε α) := ⟨a, rfl⟩

@[simp] theorem completes_error (e : ε) : ¬ Completes (.error e : Except ε α) := by
  intro completes
  obtain ⟨a, impossible⟩ := completes
  cases impossible

@[simp] theorem completes_map {x : Except ε α} (f : α → β) : Completes (f <$> x) ↔ Completes x := by
  cases x with
  | error e => exact iff_of_false (completes_error e) (completes_error e)
  | ok a => exact iff_of_true (completes_ok (f a)) (completes_ok a)

def FailsWhen (e : ε) (bad : Prop) (x : Except ε α) (a : α) : Prop :=
  (bad ∧ x = .error e) ∨ (¬ bad ∧ x = .ok a)

theorem failsWhen_ok (e : ε) {bad : Prop} (a : α) (fine : ¬ bad) :
    FailsWhen e bad (.ok a : Except ε α) a := Or.inr ⟨fine, rfl⟩

theorem FailsWhen.congr {e : ε} {bad worse : Prop} {x : Except ε α} {a : α}
    (outcome : FailsWhen e bad x a) (same : bad ↔ worse) : FailsWhen e worse x a := by
  rw [FailsWhen, ← same]
  exact outcome

theorem FailsWhen.bind {e : ε} {bad worse : Prop} {x : Except ε α} {a : α} {f : α → Except ε β}
    {b : β} (first : FailsWhen e bad x a) (rest : ¬ bad → FailsWhen e worse (f a) b) :
    FailsWhen e (bad ∨ worse) (x >>= f) b := by
  rcases first with ⟨now, same⟩ | ⟨fine, same⟩
  · rw [same]
    exact Or.inl ⟨Or.inl now, rfl⟩
  · rw [same]
    rcases rest fine with ⟨later, failed⟩ | ⟨also, passed⟩
    · exact Or.inl ⟨Or.inr later, failed⟩
    · exact Or.inr ⟨not_or.mpr ⟨fine, also⟩, passed⟩

theorem FailsWhen.map {e : ε} {bad : Prop} {x : Except ε α} {a : α} (outcome : FailsWhen e bad x a)
    (f : α → β) : FailsWhen e bad (x >>= fun a => .ok (f a)) (f a) := by
  rcases outcome with ⟨now, same⟩ | ⟨fine, same⟩
  · rw [same]
    exact Or.inl ⟨now, rfl⟩
  · rw [same]
    exact Or.inr ⟨fine, rfl⟩

/-- What comes out: a value exactly where `bad` does not hold, and no other failure. -/
theorem FailsWhen.outcomes {e : ε} {bad : Prop} {x : Except ε α} {a : α}
    (outcome : FailsWhen e bad x a) :
    (x = .ok a ↔ ¬ bad) ∧ (x = .error e ↔ bad) := by
  rcases outcome with ⟨now, same⟩ | ⟨fine, same⟩
  · simp [same, now]
  · simp [same, fine]

end Results
