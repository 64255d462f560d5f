import OpenvpnMgmt.Lib.Text

/-!
Rows of fields with one separator character between them, and reading a table row by row. A row
is read back when it has a field and no field holds the separator; a fold that may fail is
followed row by row.
-/
namespace SeparatedRows
open TextOps

def split (sep : Char) (t : Text) : List Text := t.splitOn sep
def join (sep : Char) (fields : List Text) : Text := [sep].intercalate fields

@[simp] theorem join_nil (sep : Char) : join sep [] = [] := rfl

@[simp] theorem join_single (sep : Char) (field : Text) : join sep [field] = field :=
  List.intercalate_singleton

theorem join_cons {sep : Char} {field : Text} {more : List Text} (nonempty : more ≠ []) :
    join sep (field :: more) = field ++ sep :: join sep more := by
  rw [join, List.intercalate_cons_of_ne_nil nonempty]
  simp [join]

theorem split_join {sep : Char} {fields : List Text} (free : ∀ field ∈ fields, sep ∉ field)
    (nonempty : fields ≠ []) : split sep (join sep fields) = fields :=
  List.splitOn_intercalate sep free nonempty

theorem join_split (sep : Char) (t : Text) : join sep (split sep t) = t :=
  List.intercalate_splitOn sep

theorem join_splitn (sep : Char) (n : Nat) (t : Text) :
    join sep (splitn (n + 1) (· == sep) t) = t := by
  induction n generalizing t with
  | zero => exact join_single sep t
  | succ n ih =>
    rw [splitn]
    cases found : splitOnce (· == sep) t with
    | none => exact join_single sep t
    | some pair =>
      obtain ⟨s, same, whole, -⟩ := splitOnce_eq_some found
      have nonempty : splitn (n + 1) (· == sep) pair.2 ≠ [] := by
        cases n with
        | zero => simp [splitn]
        | succ n =>
          rw [splitn]
          split <;> simp
      have eq : s = sep := by simpa using same
      simp only
      rw [join_cons nonempty, ih, whole, eq]

theorem split_plain {sep : Char} {t : Text} (free : sep ∉ t) : split sep t = [t] :=
  List.splitOn_eq_singleton free

theorem split_cons {sep : Char} {field : Text} (free : sep ∉ field) (rest : Text) :
    split sep (field ++ sep :: rest) = field :: split sep rest :=
  List.splitOn_append_cons_self_of_not_mem free rest

theorem sep_mem_join {sep : Char} {fields : List Text} (several : 2 ≤ fields.length) :
    sep ∈ join sep fields := by
  match fields, several with
  | _ :: _ :: _, _ =>
    rw [join_cons (by simp)]
    simp

theorem mem_join {sep c : Char} {fields : List Text} (member : c ∈ join sep fields) :
    c = sep ∨ ∃ field ∈ fields, c ∈ field := by
  induction fields with
  | nil => simp at member
  | cons field more ih =>
    by_cases last : more = []
    · subst last
      exact Or.inr ⟨field, by simp, by simpa using member⟩
    · rw [join_cons last, List.mem_append, List.mem_cons] at member
      rcases member with inside | same | later
      · exact Or.inr ⟨field, by simp, inside⟩
      · exact Or.inl same
      · rcases ih later with same | ⟨other, among, inside⟩
        · exact Or.inl same
        · exact Or.inr ⟨other, by simp [among], inside⟩

theorem field_of_start {a b : Char} {tag head rest : Text} (plain : b ∉ tag) (free : a ∉ head)
    (start : tag ++ [a] <+: head ++ b :: rest) : tag = head ∧ a = b := by
  induction tag generalizing head with
  | nil =>
    cases head with
    | nil => exact ⟨rfl, by simpa using start⟩
    | cons h hs =>
      have same : a = h := by simpa [List.cons_prefix_cons] using start
      exact absurd (by simp [same]) free
  | cons t ts ih =>
    cases head with
    | nil =>
      have same : t = b := (List.cons_prefix_cons.mp (by simpa using start)).1
      exact absurd (by simp [same]) plain
    | cons h hs =>
      rw [List.cons_append, List.cons_append, List.cons_prefix_cons] at start
      obtain ⟨same, start⟩ := start
      obtain ⟨tails, chars⟩ := ih (fun member => plain (by simp [member]))
        (fun member => free (by simp [member])) start
      exact ⟨by rw [same, tails], chars⟩

/-- The field under a name, in a row that has one field for each name of the header. The header
    may be shorter than the full list of names. -/
theorem lookup_zip {α β : Type} [BEq α] [LawfulBEq α] {names full : List α} {fields : List β}
    (front : names <+: full) (distinct : full.Nodup) (width : fields.length = names.length)
    {i : Nat} {name : α} (here : full[i]? = some name) :
    (names.zip fields).lookup name = fields[i]? := by
  induction names generalizing full fields i with
  | nil =>
    have empty : fields = [] := List.length_eq_zero_iff.mp width
    simp [empty]
  | cons first more ih =>
    obtain ⟨rest, rfl⟩ := front
    match fields, width with
    | field :: others, width =>
      rw [List.cons_append, List.nodup_cons] at distinct
      cases i with
      | zero =>
        have same : first = name := by simpa using here
        simp [same]
      | succ i =>
        have later : (more ++ rest)[i]? = some name := by simpa using here
        have other : name ≠ first := by
          intro same
          exact distinct.1 (same ▸ List.mem_of_getElem? later)
        have tail := ih (List.prefix_append more rest) distinct.2 (by simpa using width) later
        have unequal : (name == first) = false := beq_false_of_ne other
        simp [List.lookup_cons, unequal, tail]

/-! Reading row by row -/

section Folds
variable {ε α β γ δ : Type}

/-- Two readers that agree on every row agree on the table. -/
theorem foldlM_agree {step : γ → α → Except ε γ} {other : γ → β → Except ε γ} {f : α → β}
    (rows : List α) (agree : ∀ row ∈ rows, ∀ s, step s row = other s (f row)) (s : γ) :
    rows.foldlM step s = (rows.map f).foldlM other s := by
  induction rows generalizing s with
  | nil => rfl
  | cons row more ih =>
    have first := agree row (by simp) s
    have rest := ih fun r member => agree r (by simp [member])
    rw [List.map_cons, List.foldlM_cons, List.foldlM_cons, first]
    exact bind_congr fun after => rest after

theorem foldlM_cons_of_ok {step : γ → α → Except ε γ} {row : α} {s between : γ}
    (first : step s row = .ok between) (more : List α) :
    (row :: more).foldlM step s = more.foldlM step between := by
  rw [List.foldlM_cons, first]
  rfl

theorem foldlM_append_of_ok {step : γ → α → Except ε γ} {front : List α} {s between : γ}
    (first : front.foldlM step s = .ok between) (back : List α) :
    (front ++ back).foldlM step s = back.foldlM step between := by
  rw [List.foldlM_append, first]
  rfl

/-- A table whose rows are all accepted is accepted, with the effects of its rows in order. What
    the rows leave alone of the state is fixed by `place`. -/
theorem foldlM_accepts {step : γ → β → Except ε γ} (place : δ → γ) {effect : δ → α → δ} {f : α → β}
    (rows : List α)
    (accepts : ∀ row ∈ rows, ∀ s, step (place s) (f row) = .ok (place (effect s row))) (s : δ) :
    (rows.map f).foldlM step (place s) = .ok (place (rows.foldl effect s)) := by
  induction rows generalizing s with
  | nil => rfl
  | cons row more ih =>
    have first := accepts row (by simp) s
    have rest := ih (fun r member => accepts r (by simp [member])) (effect s row)
    rw [List.map_cons, foldlM_cons_of_ok first, List.foldl_cons, rest]

end Folds

end SeparatedRows
