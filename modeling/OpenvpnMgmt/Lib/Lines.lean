import Mathlib.Data.List.Basic

/-!
Streams cut into lines by a separator, and machines that react to whole lines. The unfinished
line waits until its separator arrives, so what a machine does over a stream cannot depend on
how the stream was cut into chunks.
-/
namespace LineFraming

section Cutting
variable {α : Type} [DecidableEq α]

/- The whole lines of a stream, each with its separator, and the unfinished rest. -/
def cut (sep : α) : List α → List (List α) × List α
  | [] => ([], [])
  | a :: rest =>
    if a = sep then ([a] :: (cut sep rest).1, (cut sep rest).2)
    else match (cut sep rest).1 with
      | [] => ([], a :: (cut sep rest).2)
      | line :: more => ((a :: line) :: more, (cut sep rest).2)

def splitLine (sep : α) : List α → Option (List α × List α)
  | [] => none
  | a :: rest =>
    if a = sep then some ([a], rest)
    else (splitLine sep rest).map fun (line, more) => (a :: line, more)

def IsLine (sep : α) (line : List α) : Prop := ∃ body, line = body ++ [sep] ∧ sep ∉ body

theorem cut_open {sep : α} {t : List α} (unfinished : sep ∉ t) : cut sep t = ([], t) := by
  induction t with
  | nil => rfl
  | cons a rest ih =>
    have other : a ≠ sep := fun same => unfinished (by simp [same])
    have tail := ih fun member => unfinished (by simp [member])
    simp [cut, other, tail]

theorem cut_line {sep : α} {body : List α} (clean : sep ∉ body) (rest : List α) :
    cut sep (body ++ sep :: rest) = ((body ++ [sep]) :: (cut sep rest).1, (cut sep rest).2) := by
  induction body with
  | nil => simp [cut]
  | cons a more ih =>
    have other : a ≠ sep := fun same => clean (by simp [same])
    have tail := ih fun member => clean (by simp [member])
    simp [cut, other, tail]

theorem splitLine_open {sep : α} {t : List α} (unfinished : sep ∉ t) : splitLine sep t = none := by
  induction t with
  | nil => rfl
  | cons a rest ih =>
    have other : a ≠ sep := fun same => unfinished (by simp [same])
    have tail := ih fun member => unfinished (by simp [member])
    simp [splitLine, other, tail]

theorem splitLine_line {sep : α} {body : List α} (clean : sep ∉ body) (rest : List α) :
    splitLine sep (body ++ sep :: rest) = some (body ++ [sep], rest) := by
  induction body with
  | nil => simp [splitLine]
  | cons a more ih =>
    have other : a ≠ sep := fun same => clean (by simp [same])
    have tail := ih fun member => clean (by simp [member])
    simp [splitLine, other, tail]

theorem splitLine_idxOf (sep : α) (t : List α) :
    splitLine sep t = (t.idxOf? sep).map fun i => (t.take (i + 1), t.drop (i + 1)) := by
  induction t with
  | nil => rfl
  | cons a rest ih =>
    by_cases same : a = sep
    · simp [splitLine, List.idxOf?_cons, same]
    · have other : (a == sep) = false := by simpa using same
      rw [splitLine, if_neg same, ih, List.idxOf?_cons, other]
      cases rest.idxOf? sep <;> rfl

theorem open_or_line (sep : α) (t : List α) :
    sep ∉ t ∨ ∃ body rest, sep ∉ body ∧ t = body ++ sep :: rest := by
  induction t with
  | nil => simp
  | cons a rest ih =>
    by_cases same : a = sep
    · exact Or.inr ⟨[], rest, by simp, by simp [same]⟩
    · rcases ih with unfinished | ⟨body, tail, clean, eq⟩
      · exact Or.inl (by simp [unfinished, Ne.symm same])
      · exact Or.inr ⟨a :: body, tail, by simp [clean, Ne.symm same], by simp [eq]⟩

theorem cut_rest_open (sep : α) (t : List α) : sep ∉ (cut sep t).2 := by
  induction t with
  | nil => simp [cut]
  | cons a rest ih =>
    by_cases same : a = sep
    · simpa [cut, same] using ih
    · cases h : (cut sep rest).1 with
      | nil => simpa [cut, same, h, Ne.symm same] using ih
      | cons line more => simpa [cut, same, h] using ih

theorem cut_append (sep : α) (a b : List α) :
    cut sep (a ++ b) =
      ((cut sep a).1 ++ (cut sep ((cut sep a).2 ++ b)).1, (cut sep ((cut sep a).2 ++ b)).2) := by
  induction h : a.length using Nat.strongRecOn generalizing a with
  | ind n ih =>
    rcases open_or_line sep a with unfinished | ⟨body, rest, clean, rfl⟩
    · simp [cut_open unfinished]
    · have shorter : rest.length < n := by simp at h; omega
      rw [List.append_assoc, List.cons_append, cut_line clean, cut_line clean,
        ih rest.length shorter rest rfl]
      simp

theorem cut_lines {sep : α} {lines : List (List α)} (whole : ∀ l ∈ lines, IsLine sep l)
    (rest : List α) :
    cut sep (lines.flatten ++ rest) = (lines ++ (cut sep rest).1, (cut sep rest).2) := by
  induction lines with
  | nil => simp
  | cons line more ih =>
    obtain ⟨body, rfl, clean⟩ := whole line (by simp)
    have tail := ih fun l member => whole l (by simp [member])
    have shape : (body ++ [sep]) ++ more.flatten ++ rest = body ++ sep :: (more.flatten ++ rest) := by
      simp
    rw [List.flatten_cons, shape, cut_line clean, tail]
    simp

theorem count_lines {sep : α} {lines : List (List α)} (whole : ∀ l ∈ lines, IsLine sep l) :
    lines.flatten.count sep = lines.length := by
  induction lines with
  | nil => rfl
  | cons line more ih =>
    obtain ⟨body, rfl, clean⟩ := whole line (by simp)
    have tail := ih fun l member => whole l (by simp [member])
    have first : (body ++ [sep]).count sep = 1 := by simp [List.count_eq_zero.mpr clean]
    rw [List.flatten_cons, List.count_append, first, tail, List.length_cons, Nat.add_comm]

def pieces (sep : α) (t : List α) : List (List α) := (cut sep t).1 ++ [(cut sep t).2]

theorem rest_prefix_of_piece (sep : α) (a b : List α) :
    ∃ line ∈ pieces sep (a ++ b), (cut sep a).2 <+: line := by
  have unfinished := cut_rest_open sep a
  rw [pieces, cut_append]
  generalize (cut sep a).2 = rest at unfinished ⊢
  rcases open_or_line sep b with later | ⟨body, more, clean, rfl⟩
  · have joined : cut sep (rest ++ b) = ([], rest ++ b) := cut_open (by simp [unfinished, later])
    exact ⟨rest ++ b, by simp [joined], List.prefix_append rest b⟩
  · have joined := cut_line (show sep ∉ rest ++ body by simp [unfinished, clean]) more
    rw [List.append_assoc] at joined
    exact ⟨rest ++ body ++ [sep], by simp [joined], by simp [List.append_assoc]⟩

theorem pieces_after_rest (sep : α) (a b line : List α)
    (member : line ∈ pieces sep ((cut sep a).2 ++ b)) : line ∈ pieces sep (a ++ b) := by
  rw [pieces, cut_append]
  rw [pieces] at member
  simp only [List.mem_append] at member ⊢
  rcases member with whole | last
  · exact Or.inl (Or.inr whole)
  · exact Or.inr last

end Cutting

section Machines
variable {α σ ε : Type}

/- A machine that reacts to one whole line with its new state and what it puts out. -/
abbrev Machine (σ α ε : Type) := σ → List α → σ × List ε

def feed (m : Machine σ α ε) : σ → List (List α) → σ × List ε
  | s, [] => (s, [])
  | s, line :: more => ((feed m (m s line).1 more).1, (m s line).2 ++ (feed m (m s line).1 more).2)

@[simp] theorem feed_nil (m : Machine σ α ε) (s : σ) : feed m s [] = (s, []) := rfl

@[simp] theorem feed_cons (m : Machine σ α ε) (s : σ) (line : List α) (more : List (List α)) :
    feed m s (line :: more) =
      ((feed m (m s line).1 more).1, (m s line).2 ++ (feed m (m s line).1 more).2) := rfl

theorem feed_append (m : Machine σ α ε) (s : σ) (a b : List (List α)) :
    feed m s (a ++ b) =
      ((feed m (feed m s a).1 b).1, (feed m s a).2 ++ (feed m (feed m s a).1 b).2) := by
  induction a generalizing s with
  | nil => simp
  | cons line more ih => simp [ih]

def outputsByLine (m : Machine σ α ε) : σ → List (List α) → List (List ε)
  | _, [] => []
  | s, line :: more => (m s line).2 :: outputsByLine m (m s line).1 more

theorem feed_outputs (m : Machine σ α ε) (s : σ) (lines : List (List α)) :
    (feed m s lines).2 = (outputsByLine m s lines).flatten := by
  induction lines generalizing s with
  | nil => rfl
  | cons line more ih => simp [outputsByLine, ih]

theorem outputsByLine_length (m : Machine σ α ε) (s : σ) (lines : List (List α)) :
    (outputsByLine m s lines).length = lines.length := by
  induction lines generalizing s with
  | nil => rfl
  | cons line more ih => simp [outputsByLine, ih]

theorem outputsByLine_take (m : Machine σ α ε) (s : σ) (lines : List (List α)) (k : Nat) :
    (outputsByLine m s lines).take k = outputsByLine m s (lines.take k) := by
  induction lines generalizing s k with
  | nil => simp [outputsByLine]
  | cons line more ih => cases k <;> simp [outputsByLine, ih]

/-- A line of a stream, or a note put in between two of them with what it makes a machine say. -/
inductive Woven (α ε : Type) where
  | line (content : List α)
  | note (content : List α) (out : List ε)

def Woven.content : Woven α ε → List α
  | .line content | .note content _ => content

def linesOf : List (Woven α ε) → List (List α)
  | [] => []
  | .line content :: more => content :: linesOf more
  | .note _ _ :: more => linesOf more

def weave : List (Woven α ε) → List (List ε) → List ε
  | .note _ out :: more, outs => out ++ weave more outs
  | .line _ :: more, out :: outs => out ++ weave more outs
  | _, _ => []

theorem feed_woven (m : Machine σ α ε) (s : σ) {items : List (Woven α ε)}
    (notes : ∀ content out, .note content out ∈ items → ∀ s, m s content = (s, out)) :
    feed m s (items.map Woven.content) =
      ((feed m s (linesOf items)).1, weave items (outputsByLine m s (linesOf items))) := by
  induction items generalizing s with
  | nil => rfl
  | cons item more ih =>
    have later := fun s =>
      ih s fun content out member => notes content out (List.mem_cons_of_mem _ member)
    cases item with
    | line content =>
      simp only [List.map_cons, Woven.content, feed_cons, linesOf, outputsByLine, weave, later]
    | note content out =>
      have here := notes content out List.mem_cons_self s
      simp only [List.map_cons, Woven.content, feed_cons, linesOf, weave, here, later]

/- A chunk arrives behind the unfinished line: all lines that are now whole are fed. -/
def absorb [DecidableEq α] (sep : α) (m : Machine σ α ε) (s : σ) (waiting chunk : List α) :
    σ × List α × List ε :=
  let (lines, rest) := cut sep (waiting ++ chunk)
  ((feed m s lines).1, rest, (feed m s lines).2)

def absorbAll [DecidableEq α] (sep : α) (m : Machine σ α ε) :
    σ → List α → List (List α) → σ × List α × List ε
  | s, waiting, [] => (s, waiting, [])
  | s, waiting, chunk :: more =>
    let (s₁, waiting₁, out₁) := absorb sep m s waiting chunk
    let (s₂, waiting₂, out₂) := absorbAll sep m s₁ waiting₁ more
    (s₂, waiting₂, out₁ ++ out₂)

/-- However the stream is cut, the machine ends in the same state with the same rest and the
    same output. -/
theorem absorbAll_eq_absorb [DecidableEq α] (sep : α) (m : Machine σ α ε) (s : σ) (waiting : List α)
    (unfinished : sep ∉ waiting) (chunks : List (List α)) :
    absorbAll sep m s waiting chunks = absorb sep m s waiting chunks.flatten := by
  induction chunks generalizing s waiting with
  | nil => simp [absorbAll, absorb, cut_open unfinished]
  | cons chunk more ih =>
    simp only [absorbAll]
    rw [ih _ _ (by simpa [absorb] using cut_rest_open sep (waiting ++ chunk))]
    simp only [absorb, List.flatten_cons]
    rw [← List.append_assoc waiting chunk, cut_append sep (waiting ++ chunk) more.flatten,
      feed_append]

end Machines

section Rounds
variable {α σ ε : Type} [DecidableEq α]

/- The lines that a machine takes up to its first result, each with the state it meets. -/
def roundsFuel (sep : α) (m : σ → List α → σ × Option ε) : Nat → σ → List α → List (σ × List α)
  | 0, _, _ => []
  | fuel + 1, s, src =>
    match splitLine sep src with
    | none => []
    | some (line, rest) =>
      (s, line) ::
        match m s line with
        | (after, none) => roundsFuel sep m fuel after rest
        | (_, some _) => []

def rounds (sep : α) (m : σ → List α → σ × Option ε) (s : σ) (src : List α) : List (σ × List α) :=
  roundsFuel sep m (src.length + 1) s src

theorem roundsFuel_enough (sep : α) (m : σ → List α → σ × Option ε) {fuel more : Nat} (s : σ)
    {src : List α} (enough : src.length < fuel) (also : src.length < more) :
    roundsFuel sep m fuel s src = roundsFuel sep m more s src := by
  induction fuel generalizing s src more with
  | zero => omega
  | succ fuel ih =>
    obtain ⟨more, rfl⟩ : ∃ n, more = n + 1 := ⟨more - 1, by omega⟩
    rcases open_or_line sep src with unfinished | ⟨body, rest, clean, rfl⟩
    · simp only [roundsFuel, splitLine_open unfinished]
    · simp only [List.length_append, List.length_cons] at enough also
      have tail : ∀ s, roundsFuel sep m fuel s rest = roundsFuel sep m more s rest :=
        fun s => ih s (by omega) (by omega)
      simp only [roundsFuel, splitLine_line clean, tail]

theorem rounds_open {sep : α} (m : σ → List α → σ × Option ε) (s : σ) {src : List α}
    (unfinished : sep ∉ src) : rounds sep m s src = [] := by
  simp only [rounds, roundsFuel, splitLine_open unfinished]

theorem rounds_line {sep : α} (m : σ → List α → σ × Option ε) (s : σ) {body : List α}
    (clean : sep ∉ body) (rest : List α) :
    rounds sep m s (body ++ sep :: rest) =
      (s, body ++ [sep]) ::
        match m s (body ++ [sep]) with
        | (after, none) => rounds sep m after rest
        | (_, some _) => [] := by
  have tail : ∀ s, roundsFuel sep m (body ++ sep :: rest).length s rest = rounds sep m s rest :=
    fun s => roundsFuel_enough sep m s (by simp; omega) (by omega)
  rw [rounds, roundsFuel, splitLine_line clean]
  simp only [tail]

theorem rounds_isLine {sep : α} (m : σ → List α → σ × Option ε) (s : σ) (src : List α) :
    ∀ t ∈ rounds sep m s src, IsLine sep t.2 := by
  induction h : src.length using Nat.strongRecOn generalizing s src with
  | ind n ih =>
    rcases open_or_line sep src with unfinished | ⟨body, rest, clean, rfl⟩
    · simp [rounds_open m s unfinished]
    · simp only [List.length_append, List.length_cons] at h
      rw [rounds_line m s clean]
      intro t member
      rcases List.mem_cons.mp member with rfl | later
      · exact ⟨body, rfl, clean⟩
      · split at later
        · exact ih rest.length (by omega) _ rest rfl t later
        · cases later

end Rounds

section Chains
variable {α σ ε : Type}

inductive Chained (m : σ → List α → σ × Option ε) : σ → List (σ × List α) → σ → Prop
  | nil (s : σ) : Chained m s [] s
  | cons {s last : σ} {line : List α} {more : List (σ × List α)}
    (rest : Chained m (m s line).1 more last) : Chained m s ((s, line) :: more) last

theorem chained_append {m : σ → List α → σ × Option ε} {s mid last : σ} {a b : List (σ × List α)}
    (front : Chained m s a mid) (back : Chained m mid b last) : Chained m s (a ++ b) last := by
  induction front with
  | nil => exact back
  | cons _ ih => exact .cons (ih back)

theorem chained_split {m : σ → List α → σ × Option ε} {s last : σ} {a b : List (σ × List α)}
    (whole : Chained m s (a ++ b) last) : ∃ mid, Chained m s a mid ∧ Chained m mid b last := by
  induction a generalizing s with
  | nil => exact ⟨s, .nil s, whole⟩
  | cons t more ih =>
    cases whole with
    | cons rest =>
      obtain ⟨mid, front, back⟩ := ih rest
      exact ⟨mid, .cons front, back⟩

theorem chained_last {m : σ → List α → σ × Option ε} {s last : σ} {lines : List (σ × List α)}
    (chain : Chained m s lines last) {inv : σ → Prop} (start : inv s)
    (each : ∀ t ∈ lines, inv (m t.1 t.2).1) : inv last := by
  induction chain with
  | nil => exact start
  | cons rest ih =>
    exact ih (each _ List.mem_cons_self) fun t member => each t (List.mem_cons_of_mem _ member)

def outputs (m : σ → List α → σ × Option ε) (lines : List (σ × List α)) : List ε :=
  lines.filterMap fun t => (m t.1 t.2).2

theorem outputs_append (m : σ → List α → σ × Option ε) (a b : List (σ × List α)) :
    outputs m (a ++ b) = outputs m a ++ outputs m b := List.filterMap_append

theorem rounds_last [DecidableEq α] {sep : α} {m : σ → List α → σ × Option ε} {s : σ}
    {src : List α} {x : ε} (result : outputs m (rounds sep m s src) = [x]) :
    ∃ front t, rounds sep m s src = front ++ [t] ∧ (m t.1 t.2).2 = some x := by
  induction h : src.length using Nat.strongRecOn generalizing s src with
  | ind n ih =>
    rcases open_or_line sep src with unfinished | ⟨body, rest, clean, rfl⟩
    · simp [rounds_open m s unfinished, outputs] at result
    · simp only [List.length_append, List.length_cons] at h
      rw [rounds_line m s clean] at result ⊢
      rcases line : m s (body ++ [sep]) with ⟨after, _ | out⟩
      · have later : outputs m (rounds sep m after rest) = [x] := by
          simpa [line, outputs] using result
        obtain ⟨front, t, shape, last⟩ := ih rest.length (by omega) later rfl
        exact ⟨(s, body ++ [sep]) :: front, t, by simp [shape], last⟩
      · exact ⟨[], (s, body ++ [sep]), rfl, by simpa [line, outputs] using result⟩

end Chains

end LineFraming
