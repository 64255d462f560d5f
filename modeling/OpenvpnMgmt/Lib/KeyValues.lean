import Mathlib.Data.List.Pairwise
import OpenvpnMgmt.Lib.Results

/-!
Lists of keyed entries read into a record, entry by entry, where the value of a key may be
refused. When different keys set different parts of the record, the order of the entries does not
matter, and neither do entries whose key is not known.
-/
namespace KeyValues
open Results

/-- How a line is taken apart, and what the value of a known key does to the record. -/
structure Format (α κ ν σ ε : Type) where
  entry : α → Option (κ × ν)
  field : κ → Option (ν → Except ε (σ → σ))

variable {α κ ν σ ε : Type} (format : Format α κ ν σ ε)

def Format.update (line : α) : Except ε (σ → σ) :=
  match format.entry line with
  | none => .ok id
  | some (key, value) =>
    match format.field key with
    | none => .ok id
    | some read => read value

def Format.take (state : σ) (line : α) : Except ε σ := do
  let set ← format.update line
  return set state

def Format.keyOf (line : α) : Option κ := (format.entry line).map Prod.fst

def Format.Unknown (line : α) : Prop := ∀ key, format.keyOf line = some key → format.field key = none

def Format.Apart (a b : α) : Prop :=
  ∀ key, format.keyOf a = some key → format.keyOf b = some key → format.field key = none

instance (line : α) : Decidable (format.Unknown line) :=
  match found : format.keyOf line with
  | none => isTrue (by simp [Format.Unknown, found])
  | some key => decidable_of_iff ((format.field key).isNone = true) (by simp [Format.Unknown, found])

instance [DecidableEq κ] (a b : α) : Decidable (format.Apart a b) :=
  match found : format.keyOf a with
  | none => isTrue (by simp [Format.Apart, found])
  | some key =>
    decidable_of_iff (format.keyOf b = some key → (format.field key).isNone = true)
      (by simp [Format.Apart, found])

def Format.Independent : Prop :=
  ∀ {k l : κ} {readK readL : ν → Except ε (σ → σ)} {v w : ν} {f g : σ → σ}, k ≠ l →
    format.field k = some readK → format.field l = some readL → readK v = .ok f →
    readL w = .ok g → ∀ s, f (g s) = g (f s)

variable {format}

theorem update_unknown {line : α} (unknown : format.Unknown line) : format.update line = .ok id := by
  unfold Format.update
  split
  · rfl
  · rename_i key value found
    rw [unknown key (by rw [Format.keyOf, found]; rfl)]

theorem update_cases {line : α} {f : σ → σ} (set : format.update line = .ok f) :
    f = id ∨ ∃ key read value, format.keyOf line = some key ∧ format.field key = some read ∧
      read value = .ok f := by
  unfold Format.update at set
  split at set
  · cases set
    exact Or.inl rfl
  · rename_i key value found
    split at set
    · cases set
      exact Or.inl rfl
    · rename_i read known
      exact Or.inr ⟨key, read, value, by rw [Format.keyOf, found]; rfl, known, set⟩

theorem take_comm (independent : format.Independent) {a b : α} (apart : format.Apart a b) (s : σ) :
    (format.take s a >>= (format.take · b)).toOption =
      (format.take s b >>= (format.take · a)).toOption := by
  simp only [Format.take, toOption_bind]
  cases first : format.update a with
  | error e => cases format.update b <;> rfl
  | ok f =>
    cases second : format.update b with
    | error e => rfl
    | ok g =>
      have same : g (f s) = f (g s) := by
        rcases update_cases first with rfl | ⟨k, readK, v, keyA, knownK, setK⟩
        · rfl
        · rcases update_cases second with rfl | ⟨l, readL, w, keyB, knownL, setL⟩
          · rfl
          · have other : k ≠ l := by
              intro equal
              have unknown := apart k keyA (equal ▸ keyB)
              rw [knownK] at unknown
              cases unknown
            exact (independent other knownK knownL setK setL s).symm
      exact congrArg some same

theorem apart_symm {a b : α} (apart : format.Apart a b) : format.Apart b a :=
  fun key second first => apart key first second

theorem foldlM_perm (independent : format.Independent) {lines others : List α}
    (perm : lines.Perm others) (apart : lines.Pairwise format.Apart) (s : σ) :
    (lines.foldlM format.take s).toOption = (others.foldlM format.take s).toOption := by
  induction perm generalizing s with
  | nil => rfl
  | cons line rest ih =>
    simp only [List.foldlM_cons, toOption_bind]
    exact Option.bind_congr fun after _ => ih (List.pairwise_cons.mp apart).2 after
  | swap a b more =>
    have pair : format.Apart b a := (List.pairwise_cons.mp apart).1 a (by simp)
    have swapped := take_comm independent pair s
    simp only [toOption_bind] at swapped
    simp only [List.foldlM_cons, toOption_bind, ← Option.bind_assoc, swapped]
  | trans first second ihFirst ihSecond =>
    have middle := (first.pairwise_iff apart_symm).mp apart
    exact (ihFirst apart s).trans (ihSecond middle s)

theorem foldlM_unknown {lines : List α} (unknown : ∀ line ∈ lines, format.Unknown line) (s : σ) :
    lines.foldlM format.take s = .ok s := by
  induction lines with
  | nil => rfl
  | cons line more ih =>
    have first : format.take s line = .ok s := by
      rw [Format.take, update_unknown (unknown line (by simp))]
      rfl
    rw [List.foldlM_cons, first]
    exact ih fun l member => unknown l (by simp [member])

/-- Unknown lines anywhere, and the others in any order. -/
theorem foldlM_reordered (independent : format.Independent) {lines others extra : List α}
    (apart : lines.Pairwise format.Apart) (unknown : ∀ line ∈ extra, format.Unknown line)
    (perm : others.Perm (lines ++ extra)) (s : σ) :
    (lines.foldlM format.take s).toOption = (others.foldlM format.take s).toOption := by
  have unknownApart : ∀ a b, format.Unknown b → format.Apart a b := fun a b free key _ => free key
  have whole : (lines ++ extra).Pairwise format.Apart := by
    rw [List.pairwise_append]
    refine ⟨apart, ?_, ?_⟩
    · exact List.pairwise_of_forall_mem_list fun a _ b member => unknownApart a b (unknown b member)
    · intro a _ b member
      exact unknownApart a b (unknown b member)
  have same : (lines ++ extra).foldlM format.take s = lines.foldlM format.take s := by
    rw [List.foldlM_append]
    calc
      lines.foldlM format.take s >>= (extra.foldlM format.take ·) =
          lines.foldlM format.take s >>= pure := bind_congr fun after => foldlM_unknown unknown after
      _ = lines.foldlM format.take s := bind_pure _
  rw [← same]
  exact (foldlM_perm independent (perm.symm) whole s)

/-! Tables of fields -/

def Commute (read other : ν → Except ε (σ → σ)) : Prop :=
  ∀ {v w : ν} {f g : σ → σ}, read v = .ok f → other w = .ok g → ∀ s, f (g s) = g (f s)

def Format.ofTable [BEq κ] (entry : α → Option (κ × ν))
    (table : List (κ × (ν → Except ε (σ → σ)))) : Format α κ ν σ ε := ⟨entry, fun key => table.lookup key⟩

theorem mem_of_lookup [BEq κ] [LawfulBEq κ] {β : Type} {table : List (κ × β)} {key : κ} {b : β}
    (found : table.lookup key = some b) : (key, b) ∈ table := by
  obtain ⟨front, back, rfl, -⟩ := List.lookup_eq_some_iff.mp found
  simp

theorem lookup_of_nodup [BEq κ] [LawfulBEq κ] {β : Type} {table : List (κ × β)}
    (nodup : (table.map Prod.fst).Nodup) {key : κ} {b : β} (member : (key, b) ∈ table) :
    table.lookup key = some b := by
  induction table with
  | nil => cases member
  | cons first more ih =>
    rw [List.map_cons, List.nodup_cons] at nodup
    rcases List.mem_cons.mp member with rfl | later
    · simp
    · have apart : key ≠ first.1 := by
        rintro rfl
        exact nodup.1 (List.mem_map.mpr ⟨_, later, rfl⟩)
      rw [List.lookup_cons, beq_false_of_ne apart]
      exact ih nodup.2 later

theorem independent_of_table [BEq κ] [LawfulBEq κ] (entry : α → Option (κ × ν))
    {table : List (κ × (ν → Except ε (σ → σ)))}
    (pairs : table.Pairwise fun a b => Commute a.2 b.2) :
    (Format.ofTable entry table).Independent := by
  intro k l readK readL v w f g other knownK knownL setK setL s
  have symm : Std.Symm fun a b : κ × (ν → Except ε (σ → σ)) => Commute a.2 b.2 :=
    ⟨fun a b commute v w f g setB setA s => (commute setA setB s).symm⟩
  have distinct : (k, readK) ≠ (l, readL) := fun same => other (Prod.mk.inj same).1
  exact pairs.forall (mem_of_lookup knownK) (mem_of_lookup knownL) distinct setK setL s

end KeyValues
