import Mathlib.Algebra.Group.Nat.Defs
import Mathlib.Data.List.DropRight
import Mathlib.Data.List.Infix
import Mathlib.Data.List.Basic

/-!
String slices as lists of Unicode scalar values, with the trimming, searching, splitting and
decimal operations of a systems-language `str`. Offsets never appear: every operation returns
the pieces themselves, so slicing inside a character cannot be expressed.
-/
namespace TextOps

abbrev Text := List Char

/- A literal of the source. Irreducible, so that two literals are compared as strings and never
   decoded side by side; `lit_inj` and `lit_eq` are the ways in. -/
@[irreducible] def lit (word : String) : Text := word.toList

def isWhitespace (c : Char) : Bool :=
  (9 ≤ c.toNat ∧ c.toNat ≤ 13) || c.toNat = 32 || c.toNat = 0x85 || c.toNat = 0xA0 ||
    c.toNat = 0x1680 || (0x2000 ≤ c.toNat ∧ c.toNat ≤ 0x200A) || c.toNat = 0x2028 ||
    c.toNat = 0x2029 || c.toNat = 0x202F || c.toNat = 0x205F || c.toNat = 0x3000

def trimStart (t : Text) : Text := t.dropWhile isWhitespace
def trimEnd (t : Text) : Text := t.rdropWhile isWhitespace
def trim (t : Text) : Text := trimEnd (trimStart t)

def Trimmed (t : Text) : Prop :=
  (∀ c ∈ t.head?, isWhitespace c = false) ∧ (∀ c ∈ t.getLast?, isWhitespace c = false)

def NoWhitespace (t : Text) : Prop := ∀ c ∈ t, isWhitespace c = false

-- Named instances: a search could also find the enumeration of all characters.
instance (t : Text) : Decidable (Trimmed t) :=
  @instDecidableAnd _ _ (Option.decidableForallMem t.head?) (Option.decidableForallMem t.getLast?)

instance (t : Text) : Decidable (NoWhitespace t) :=
  List.decidableBAll (fun c => isWhitespace c = false) t

def stripPrefix (t start : Text) : Option Text := t.dropPrefix? start
def stripSuffix (t ending : Text) : Option Text := t.dropSuffix? ending

def splitOnce (p : Char → Bool) : Text → Option (Text × Text)
  | [] => none
  | c :: rest =>
    if p c then some ([], rest)
    else (splitOnce p rest).map fun (before, after) => (c :: before, after)

def rsplitOnce (p : Char → Bool) (t : Text) : Option (Text × Text) :=
  (splitOnce p t.reverse).map fun (after, before) => (before.reverse, after.reverse)

def splitOnceText (pattern : Text) : Text → Option (Text × Text)
  | [] => if pattern = [] then some ([], []) else none
  | c :: rest =>
    match stripPrefix (c :: rest) pattern with
    | some after => some ([], after)
    | none => (splitOnceText pattern rest).map fun (before, after) => (c :: before, after)

/- At most `n` pieces; the last one keeps its separators. -/
def splitn : Nat → (Char → Bool) → Text → List Text
  | 0, _, _ => []
  | 1, _, t => [t]
  | n + 2, p, t =>
    match splitOnce p t with
    | none => [t]
    | some (before, after) => before :: splitn (n + 1) p after

def splitWhitespace (t : Text) : List Text :=
  (t.splitOnP isWhitespace).filter (· ≠ [])

def display {w : Nat} (n : BitVec w) : Text := Nat.toDigits 10 n.toNat

/- A sign `+` is accepted, leading zeros are accepted, and a value that does not fit is an
   error. -/
def parseUInt (w : Nat) (t : Text) : Option (BitVec w) :=
  let digits := if t.head? = some '+' then t.tail else t
  if digits ≠ [] ∧ digits.all Char.isDigit ∧ Nat.ofDigitChars 10 digits 0 < 2 ^ w then
    some (BitVec.ofNat w (Nat.ofDigitChars 10 digits 0))
  else none

@[simp] theorem lit_inj {a b : String} : lit a = lit b ↔ a = b := by
  simp [lit, String.toList_inj]

theorem lit_eq (word : String) : lit word = word.toList := by
  simp [lit]

/-! Trimming -/

theorem trimStart_cons {c : Char} (visible : isWhitespace c = false) (t : Text) :
    trimStart (c :: t) = c :: t := by
  simp [trimStart, visible]

theorem trimStart_of_head {t : Text} (head : ∀ c ∈ t.head?, isWhitespace c = false) :
    trimStart t = t := by
  cases t with
  | nil => rfl
  | cons c rest => exact trimStart_cons (head c (by simp)) rest

theorem trimStart_head (t : Text) : ∀ c ∈ (trimStart t).head?, isWhitespace c = false := by
  intro c member
  have visible := List.head?_dropWhile_not isWhitespace t
  rwa [show (t.dropWhile isWhitespace).head? = some c from member] at visible

theorem trimStart_idem (t : Text) : trimStart (trimStart t) = trimStart t :=
  trimStart_of_head (trimStart_head t)

theorem trimStart_suffix (t : Text) : trimStart t <:+ t := List.dropWhile_suffix isWhitespace

theorem trimEnd_of_last {t : Text} (last : ∀ c ∈ t.getLast?, isWhitespace c = false) :
    trimEnd t = t := by
  refine List.rdropWhile_eq_self_iff.mpr fun nonempty => ?_
  have := last (t.getLast nonempty) (by simp [List.getLast?_eq_some_getLast nonempty])
  simp [this]

theorem trimEnd_last (t : Text) : ∀ c ∈ (trimEnd t).getLast?, isWhitespace c = false := by
  intro c member
  obtain ⟨nonempty, rfl⟩ := List.mem_getLast?_eq_getLast member
  have visible := List.rdropWhile_last_not isWhitespace t nonempty
  exact Bool.eq_false_iff.mpr visible

theorem trimEnd_front (t : Text) : trimEnd t <+: t := List.rdropWhile_prefix isWhitespace t

theorem trimEnd_idem (t : Text) : trimEnd (trimEnd t) = trimEnd t :=
  List.rdropWhile_idempotent isWhitespace t

theorem trim_eq_self {t : Text} (trimmed : Trimmed t) : trim t = t := by
  rw [trim, trimStart_of_head trimmed.1, trimEnd_of_last trimmed.2]

theorem noWhitespace_trimmed {t : Text} (solid : NoWhitespace t) : Trimmed t := by
  constructor
  · intro c member; exact solid c (List.mem_of_mem_head? member)
  · intro c member; exact solid c (List.mem_of_mem_getLast? member)

theorem trim_trimmed (t : Text) : Trimmed (trim t) := by
  refine ⟨fun c member => trimStart_head t c ?_, trimEnd_last _⟩
  obtain ⟨back, whole⟩ := trimEnd_front (trimStart t)
  rw [← whole]
  exact List.mem_head?_append_of_mem_head? member

theorem trim_inside (t : Text) : trim t <:+: t :=
  (trimEnd_front _).isInfix.trans (trimStart_suffix t).isInfix

def Solid (t : Text) : Prop := t ≠ [] ∧ Trimmed t

def IsWord (t : Text) : Prop := t ≠ [] ∧ NoWhitespace t

instance (t : Text) : Decidable (Solid t) := inferInstanceAs (Decidable (_ ∧ _))
instance (t : Text) : Decidable (IsWord t) := inferInstanceAs (Decidable (_ ∧ _))

theorem IsWord.solid {t : Text} (word : IsWord t) : Solid t := ⟨word.1, noWhitespace_trimmed word.2⟩

theorem Solid.append {a b : Text} (ha : Solid a) (hb : Solid b) (middle : Text) :
    Solid (a ++ (middle ++ b)) := by
  obtain ⟨left, leftTrimmed⟩ := ha
  obtain ⟨right, rightTrimmed⟩ := hb
  refine ⟨by simp [left], ?_, ?_⟩
  · intro c member
    refine leftTrimmed.1 c ?_
    cases a with
    | nil => contradiction
    | cons x xs => simpa using member
  · intro c member
    refine rightTrimmed.2 c ?_
    rwa [← List.append_assoc, List.getLast?_append_of_ne_nil _ right] at member

theorem Solid.spaced {a b : Text} (ha : Solid a) (hb : Solid b) : Solid (a ++ ' ' :: b) :=
  ha.append hb [' ']

theorem trimStart_space {t : Text} (solid : Solid t) : trimStart (' ' :: t) = t := by
  have blank : isWhitespace ' ' = true := by decide
  rw [trimStart, List.dropWhile_cons_of_pos blank]
  exact trimStart_of_head solid.2.1

theorem rdropWhile_append_keep {p : Char → Bool} {c : Char} (kept : p c = false) (a b : Text) :
    (a ++ c :: b).rdropWhile p = a ++ c :: b.rdropWhile p := by
  induction b using List.reverseRecOn with
  | nil => exact List.rdropWhile_concat_neg p a c (by simp [kept])
  | append_singleton b x ih =>
    have shape : a ++ c :: (b ++ [x]) = (a ++ c :: b) ++ [x] := by simp
    by_cases dropped : p x = true
    · rw [shape, List.rdropWhile_concat_pos p _ x dropped, ih, List.rdropWhile_concat_pos p _ x dropped]
    · rw [shape, List.rdropWhile_concat_neg p _ x dropped, List.rdropWhile_concat_neg p _ x dropped,
        ← shape]

theorem blank_or_visible (t : Text) :
    (∀ c ∈ t, isWhitespace c = true) ∨
      ∃ blanks c more, t = blanks ++ c :: more ∧ (∀ b ∈ blanks, isWhitespace b = true) ∧
        isWhitespace c = false := by
  induction t with
  | nil => exact Or.inl (by simp)
  | cons x xs ih =>
    by_cases blank : isWhitespace x = true
    · rcases ih with all | ⟨blanks, c, more, rfl, before, visible⟩
      · exact Or.inl (by simpa [blank] using all)
      · exact Or.inr ⟨x :: blanks, c, more, rfl, by simpa [blank] using before, visible⟩
    · exact Or.inr ⟨[], x, xs, rfl, by simp, by simpa using blank⟩

theorem trimStart_blanks {blanks rest : Text} (all : ∀ b ∈ blanks, isWhitespace b = true) :
    trimStart (blanks ++ rest) = trimStart rest := List.dropWhile_append_of_pos all

theorem trimEnd_blank {t : Text} (all : ∀ c ∈ t, isWhitespace c = true) : trimEnd t = [] :=
  List.rdropWhile_eq_nil_iff.mpr all

theorem trimEnd_blanks {t blanks : Text} (all : ∀ b ∈ blanks, isWhitespace b = true) :
    trimEnd (t ++ blanks) = trimEnd t := by
  rw [trimEnd, List.rdropWhile, List.reverse_append, List.dropWhile_append_of_pos (by simpa using all)]
  rfl

theorem trimEnd_visible {c : Char} (visible : isWhitespace c = false) (a b : Text) :
    trimEnd (a ++ c :: b) = a ++ c :: trimEnd b := rdropWhile_append_keep visible a b

theorem trim_of_last {t : Text} (last : ∀ c ∈ t.getLast?, isWhitespace c = false) :
    trim t = trimStart t := by
  refine trimEnd_of_last fun c member => last c ?_
  obtain ⟨front, whole⟩ := trimStart_suffix t
  rw [← whole]
  exact List.mem_getLast?_append_of_mem_getLast? member

theorem trim_trimEnd (t : Text) : trim (trimEnd t) = trim t := by
  rcases blank_or_visible t with all | ⟨blanks, c, more, rfl, before, visible⟩
  · have inner : trimStart t = [] := List.dropWhile_eq_nil_iff.mpr all
    rw [trimEnd_blank all, trim, trim, inner]
    rfl
  · rw [trimEnd_visible visible, trim, trim, trimStart_blanks before, trimStart_blanks before,
      trimStart_cons visible, trimStart_cons visible, ← List.nil_append (c :: more),
      trimEnd_visible visible, List.nil_append, ← List.nil_append (c :: trimEnd more),
      trimEnd_visible visible, trimEnd_idem]

theorem solid_trim {t : Text} {c : Char} (member : c ∈ t) (visible : isWhitespace c = false) :
    Solid (trim t) := by
  refine ⟨?_, trim_trimmed t⟩
  rcases blank_or_visible t with all | ⟨blanks, d, more, rfl, before, shown⟩
  · rw [all c member] at visible
    contradiction
  · rw [trim, trimStart_blanks before, trimStart_cons shown, ← List.nil_append (d :: more),
      trimEnd_visible shown]
    simp

/-! Prefixes and suffixes -/

theorem stripPrefix_append (start rest : Text) : stripPrefix (start ++ rest) start = some rest := by
  rw [stripPrefix, List.dropPrefix?_eq_some_iff]
  exact ⟨start, rfl, by simp⟩

theorem stripPrefix_eq_some {t start rest : Text} :
    stripPrefix t start = some rest ↔ t = start ++ rest := by
  rw [stripPrefix, List.dropPrefix?_eq_some_iff]
  simp

theorem stripPrefix_eq_none {t start : Text} :
    stripPrefix t start = none ↔ ¬ start <+: t := by
  rw [← not_iff_not, ← ne_eq, Option.ne_none_iff_exists']
  simp only [stripPrefix_eq_some, not_not]
  exact ⟨fun ⟨rest, eq⟩ => ⟨rest, eq.symm⟩, fun ⟨rest, eq⟩ => ⟨rest, eq.symm⟩⟩

theorem stripSuffix_append (front ending : Text) :
    stripSuffix (front ++ ending) ending = some front := by
  rw [stripSuffix, List.dropSuffix?_eq_some_iff]
  exact ⟨ending, rfl, by simp⟩

/-! Splitting at characters -/

theorem free_of {t : Text} {s : Char} (plain : s ∉ t) : ∀ c ∈ t, (c == s) = false := by
  intro c member
  have other : c ≠ s := fun same => plain (same ▸ member)
  simpa using other

theorem splitOnce_append {p : Char → Bool} {a b : Text} {s : Char}
    (clean : ∀ c ∈ a, p c = false) (sep : p s = true) :
    splitOnce p (a ++ s :: b) = some (a, b) := by
  induction a with
  | nil => simp [splitOnce, sep]
  | cons x xs ih =>
    have first := clean x (by simp)
    have tail := ih fun c member => clean c (by simp [member])
    simp [splitOnce, first, tail]

theorem splitOnce_eq_none {p : Char → Bool} {t : Text} :
    splitOnce p t = none ↔ ∀ c ∈ t, p c = false := by
  induction t with
  | nil => simp [splitOnce]
  | cons x xs ih =>
    by_cases hx : p x = true
    · simp [splitOnce, hx]
    · have hx : p x = false := by simpa using hx
      simp [splitOnce, hx, ih]

theorem splitOnce_eq_some {p : Char → Bool} {t a b : Text} (split : splitOnce p t = some (a, b)) :
    ∃ s, p s = true ∧ t = a ++ s :: b ∧ ∀ c ∈ a, p c = false := by
  induction t generalizing a with
  | nil => simp [splitOnce] at split
  | cons x xs ih =>
    by_cases hx : p x = true
    · simp only [splitOnce, hx, if_true, Option.some.injEq, Prod.mk.injEq] at split
      obtain ⟨rfl, rfl⟩ := split
      exact ⟨x, hx, rfl, by simp⟩
    · simp only [splitOnce, hx, Bool.false_eq_true, if_false, Option.map_eq_some_iff,
        Prod.mk.injEq] at split
      obtain ⟨⟨front, back⟩, inner, rfl, rfl⟩ := split
      obtain ⟨s, hs, whole, clean⟩ := ih inner
      refine ⟨s, hs, by simp [whole], ?_⟩
      intro c member
      rcases List.mem_cons.mp member with rfl | later
      · simpa using hx
      · exact clean c later

theorem rsplitOnce_append {p : Char → Bool} {a b : Text} {s : Char}
    (clean : ∀ c ∈ b, p c = false) (sep : p s = true) :
    rsplitOnce p (a ++ s :: b) = some (a, b) := by
  have flipped : (a ++ s :: b).reverse = b.reverse ++ s :: a.reverse := by simp
  rw [rsplitOnce, flipped, splitOnce_append (by simpa using clean) sep]
  simp

theorem splitn_cons {p : Char → Bool} {a b : Text} {s : Char} (n : Nat)
    (clean : ∀ c ∈ a, p c = false) (sep : p s = true) :
    splitn (n + 2) p (a ++ s :: b) = a :: splitn (n + 1) p b := by
  simp [splitn, splitOnce_append clean sep]

theorem splitn_single {p : Char → Bool} {t : Text} (n : Nat) (clean : ∀ c ∈ t, p c = false) :
    splitn (n + 1) p t = [t] := by
  cases n with
  | zero => rfl
  | succ n => simp [splitn, splitOnce_eq_none.mpr clean]

theorem splitWhitespace_cons {a b : Text} {s : Char} (clean : NoWhitespace a) (nonempty : a ≠ [])
    (sep : isWhitespace s = true) : splitWhitespace (a ++ s :: b) = a :: splitWhitespace b := by
  rw [splitWhitespace, List.splitOnP_append_cons_of_forall_mem clean _ sep]
  simp [splitWhitespace, nonempty]

theorem splitWhitespace_single {t : Text} (clean : NoWhitespace t) (nonempty : t ≠ []) :
    splitWhitespace t = [t] := by
  rw [splitWhitespace, List.splitOnP_eq_singleton clean]
  simp [nonempty]

theorem rsplitOnce_eq_some {p : Char → Bool} {t a b : Text} (split : rsplitOnce p t = some (a, b)) :
    ∃ s, p s = true ∧ t = a ++ s :: b := by
  obtain ⟨⟨after, before⟩, inner, pair⟩ := Option.map_eq_some_iff.mp split
  obtain ⟨rfl, rfl⟩ := Prod.mk.inj pair
  obtain ⟨s, sep, whole, -⟩ := splitOnce_eq_some inner
  exact ⟨s, sep, by simpa using congrArg List.reverse whole⟩

theorem rsplitOnce_eq_none {p : Char → Bool} {t : Text} :
    rsplitOnce p t = none ↔ ∀ c ∈ t, p c = false := by
  simp [rsplitOnce, splitOnce_eq_none]

theorem rsplitOnce_last {p : Char → Bool} {t a b : Text} (split : rsplitOnce p t = some (a, b)) :
    ∀ c ∈ b, p c = false := by
  obtain ⟨⟨after, before⟩, inner, pair⟩ := Option.map_eq_some_iff.mp split
  obtain ⟨rfl, rfl⟩ := Prod.mk.inj pair
  obtain ⟨_, _, _, clean⟩ := splitOnce_eq_some inner
  simpa using clean

/-- Every piece stands in the text, the last one allowed at its end; the others are free of
    separators. -/
theorem splitn_piece {n i : Nat} {p : Char → Bool} {t piece : Text}
    (found : (splitn n p t)[i]? = some piece) :
    piece <:+: t ∧ (i + 1 < n → ∀ c ∈ piece, p c = false) ∧ (i + 1 = n → piece <:+ t) := by
  fun_induction splitn n p t generalizing i with
  | case1 => simp at found
  | case2 p t =>
    obtain ⟨rfl, rfl⟩ : i = 0 ∧ t = piece := by
      cases i <;> simp at found
      exact ⟨rfl, found⟩
    exact ⟨List.infix_rfl, by omega, fun _ => List.suffix_rfl⟩
  | case3 n p t whole =>
    obtain ⟨rfl, rfl⟩ : i = 0 ∧ t = piece := by
      cases i <;> simp at found
      exact ⟨rfl, found⟩
    exact ⟨List.infix_rfl, fun _ => splitOnce_eq_none.mp whole, by omega⟩
  | case4 n p t before after split ih =>
    obtain ⟨s, -, rfl, clean⟩ := splitOnce_eq_some split
    cases i with
    | zero =>
      obtain rfl : before = piece := by simpa using found
      exact ⟨(List.prefix_append before (s :: after)).isInfix, fun _ => clean, by omega⟩
    | succ i =>
      obtain ⟨inside, free, last⟩ := ih found
      have tail : after <:+ before ++ s :: after := ⟨before ++ [s], by simp⟩
      exact ⟨inside.trans tail.isInfix, fun more => free (by omega),
        fun same => (last (by omega)).trans tail⟩

theorem splitn_three {p : Char → Bool} {t a b c : Text} (pieces : splitn 3 p t = [a, b, c]) :
    ∃ rest, splitOnce p t = some (a, rest) ∧ splitOnce p rest = some (b, c) := by
  simp only [splitn] at pieces
  split at pieces
  · simp at pieces
  · rename_i first
    split at pieces
    · simp at pieces
    · rename_i second
      cases pieces
      exact ⟨_, first, second⟩

theorem splitOnP_pieces {p : Char → Bool} (t : Text) :
    ∀ piece ∈ t.splitOnP p, (∀ c ∈ piece, p c = false) ∧ piece ⊆ t := by
  induction t with
  | nil => simp
  | cons x xs ih =>
    rw [List.splitOnP_cons_eq_if_modifyHead]
    obtain ⟨first, more, eq⟩ := List.exists_cons_of_ne_nil (List.splitOnP_ne_nil p xs)
    rw [eq] at ih ⊢
    have head := ih first (by simp)
    have tail := fun piece member => ih piece (List.mem_cons_of_mem first member)
    split
    · intro piece member
      rcases List.mem_cons.mp member with rfl | member
      · simp
      · obtain ⟨free, inside⟩ := ih piece member
        exact ⟨free, List.subset_cons_of_subset x inside⟩
    · rename_i other
      intro piece member
      rcases List.mem_cons.mp member with rfl | member
      · refine ⟨?_, List.cons_subset_cons x head.2⟩
        simpa using ⟨by simpa using other, head.1⟩
      · obtain ⟨free, inside⟩ := tail piece member
        exact ⟨free, List.subset_cons_of_subset x inside⟩

theorem splitWhitespace_words (t : Text) : ∀ word ∈ splitWhitespace t, IsWord word ∧ word ⊆ t := by
  intro word member
  obtain ⟨piece, nonempty⟩ := List.mem_filter.mp member
  obtain ⟨visible, inside⟩ := splitOnP_pieces t word piece
  exact ⟨⟨by simpa using nonempty, visible⟩, inside⟩

/-! Splitting at patterns -/

theorem splitOnceText_eq_none {pattern t : Text} (absent : ¬ pattern <:+: t) :
    splitOnceText pattern t = none := by
  induction t with
  | nil =>
    have : pattern ≠ [] := fun empty => absent (by simp [empty])
    simp [splitOnceText, this]
  | cons c rest ih =>
    have here : stripPrefix (c :: rest) pattern = none :=
      stripPrefix_eq_none.mpr fun start => absent start.isInfix
    have later := ih fun inner => absent (inner.trans (List.suffix_cons c rest).isInfix)
    simp [splitOnceText, here, later]

theorem splitOnceText_here {pattern rest : Text} (nonempty : pattern ≠ []) :
    splitOnceText pattern (pattern ++ rest) = some ([], rest) := by
  cases pattern with
  | nil => contradiction
  | cons p ps =>
    have found := stripPrefix_append (p :: ps) rest
    rw [List.cons_append] at found ⊢
    simp [splitOnceText, found]

theorem splitOnceText_skip {pattern rest : Text} {c : Char} (absent : ¬ pattern <+: c :: rest) :
    splitOnceText pattern (c :: rest) =
      (splitOnceText pattern rest).map fun (before, after) => (c :: before, after) := by
  simp [splitOnceText, stripPrefix_eq_none.mpr absent]

theorem splitOnceText_append {p : Char} {front : Text} (clean : p ∉ front) (ps rest : Text) :
    splitOnceText (p :: ps) (front ++ (p :: ps ++ rest)) = some (front, rest) := by
  induction front with
  | nil => exact splitOnceText_here (by simp)
  | cons c more ih =>
    have other : p ≠ c := fun same => clean (by simp [same])
    have tail := ih fun member => clean (by simp [member])
    rw [List.cons_append, splitOnceText_skip (by simp [List.cons_prefix_cons, other]), tail]
    rfl

theorem splitOnceText_eq_some {pattern t a b : Text} (split : splitOnceText pattern t = some (a, b)) :
    t = a ++ (pattern ++ b) := by
  induction t generalizing a with
  | nil =>
    by_cases empty : pattern = []
    · simp only [splitOnceText, empty, if_true, Option.some.injEq, Prod.mk.injEq] at split
      simp [← split.1, ← split.2, empty]
    · simp [splitOnceText, empty] at split
  | cons c rest ih =>
    cases here : stripPrefix (c :: rest) pattern with
    | some after =>
      simp only [splitOnceText, here, Option.some.injEq, Prod.mk.injEq] at split
      rw [stripPrefix_eq_some.mp here, ← split.1, ← split.2, List.nil_append]
    | none =>
      simp only [splitOnceText, here, Option.map_eq_some_iff, Prod.mk.injEq] at split
      obtain ⟨⟨front, back⟩, inner, rfl, rfl⟩ := split
      rw [List.cons_append, ← ih inner]

theorem splitOnceText_absent {pattern t : Text} (nonempty : pattern ≠ [])
    (whole : splitOnceText pattern t = none) : ¬ pattern <:+: t := by
  induction t with
  | nil => simp [nonempty]
  | cons c rest ih =>
    cases here : stripPrefix (c :: rest) pattern with
    | some after => simp [splitOnceText, here] at whole
    | none =>
      simp only [splitOnceText, here, Option.map_eq_none_iff] at whole
      intro inside
      rcases List.infix_cons_iff.mp inside with start | later
      · exact stripPrefix_eq_none.mp here start
      · exact ih whole later

/-! Decimal numbers -/

theorem display_isDigit {w : Nat} (n : BitVec w) : ∀ c ∈ display n, c.isDigit = true :=
  fun _ member => Nat.isDigit_of_mem_toDigits (by omega) (by omega) member

theorem not_mem_display {w : Nat} (n : BitVec w) {c : Char} (other : c.isDigit = false) :
    c ∉ display n := by
  intro member
  rw [display_isDigit n c member] at other
  cases other

theorem display_ne_nil {w : Nat} (n : BitVec w) : display n ≠ [] := Nat.toDigits_ne_nil

theorem isDigit_not_whitespace {c : Char} (digit : c.isDigit = true) : isWhitespace c = false := by
  simp only [Char.isDigit, Bool.and_eq_true, decide_eq_true_eq, ge_iff_le,
    UInt32.le_iff_toNat_le] at digit
  have low : 48 ≤ c.toNat := digit.1
  have high : c.toNat ≤ 57 := digit.2
  simp only [isWhitespace, Bool.or_eq_false_iff, decide_eq_false_iff_not]
  omega

theorem display_noWhitespace {w : Nat} (n : BitVec w) : NoWhitespace (display n) :=
  fun c member => isDigit_not_whitespace (display_isDigit n c member)

theorem display_isWord {w : Nat} (n : BitVec w) : IsWord (display n) :=
  ⟨display_ne_nil n, display_noWhitespace n⟩

theorem parseUInt_display {w : Nat} (n : BitVec w) : parseUInt w (display n) = some n := by
  have unsigned : (display n).head? ≠ some '+' := by
    intro sign
    have := display_isDigit n '+' (List.mem_of_mem_head? sign)
    simp [Char.isDigit] at this
  have digits : (display n).all Char.isDigit = true := List.all_eq_true.mpr (display_isDigit n)
  have value : Nat.ofDigitChars 10 (display n) 0 = n.toNat := Nat.ofDigitChars_ten_toDigits
  simp only [parseUInt, unsigned, if_false, value]
  rw [if_pos ⟨display_ne_nil n, digits, n.isLt⟩]
  simp

theorem parseUInt_digits {w : Nat} {t : Text} {n : BitVec w} (parsed : parseUInt w t = some n) :
    ∀ c ∈ t, c = '+' ∨ c.isDigit = true := by
  intro c member
  rw [parseUInt, Option.ite_none_right_eq_some] at parsed
  obtain ⟨⟨-, digits, -⟩, -⟩ := parsed
  rw [List.all_eq_true] at digits
  split at digits
  · rename_i sign
    obtain ⟨rest, rfl⟩ : ∃ rest, t = '+' :: rest := List.head?_eq_some_iff.mp sign
    exact (List.mem_cons.mp member).imp_right (digits c)
  · exact Or.inr (digits c member)

end TextOps
