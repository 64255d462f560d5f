import OpenvpnMgmt.Lib.Utf8

/-!
The encoder primitives of the frame crate: the wire-safety gate, escaping, quoting, and the
two ways of writing a command. `dst` is the outgoing buffer; a primitive that fails returns
the buffer with whatever it had already put there.
-/
namespace MgmtEncoder
open TextOps Utf8Text

/- `\n` and `\r` split commands, `\0` truncates at the C layer. -/
def wireUnsafe : List Char := ['\n', '\r', '\x00']

inductive EncoderMode where
  | sanitize
  | strict
  deriving DecidableEq, Repr

inductive EncodeError where
  | unsafeCharacters (field : Text)
  | endInBlockBody
  deriving DecidableEq, Repr

inductive AccumulationLimit where
  | unlimited
  | max (most : Nat)
  deriving DecidableEq, Repr

def WireClean (s : Text) : Prop := ∀ c ∈ s, c ∉ wireUnsafe

instance (s : Text) : Decidable (WireClean s) := List.decidableBAll (· ∉ wireUnsafe) s

def strip (s : Text) : Text := s.filter (· ∉ wireUnsafe)

def wireSafe (s : Text) (field : Text) (mode : EncoderMode) : Except EncodeError Text :=
  if WireClean s then .ok s
  else match mode with
    | .sanitize => .ok (strip s)
    | .strict => .error (.unsafeCharacters field)

def escape : Text → Text
  | [] => []
  | '\\' :: rest => '\\' :: '\\' :: escape rest
  | '"' :: rest => '\\' :: '"' :: escape rest
  | c :: rest => c :: escape rest

def quote (s : Text) : Text := '"' :: s ++ ['"']

def newline : UInt8 := 10

def writeLine (dst : Bytes) (s : Text) : Bytes := dst ++ toUtf8 s ++ [newline]

def endMarker : Text := ['E', 'N', 'D']

/- The body of a block. A line that fails leaves the accepted lines before it in the buffer. -/
def writeBody (dst : Bytes) (mode : EncoderMode) : List Text → Except EncodeError Unit × Bytes
  | [] => (.ok (), writeLine dst endMarker)
  | line :: more =>
    match wireSafe line (lit "block body line") mode with
    | .error e => (.error e, dst)
    | .ok clean =>
      if clean = endMarker then
        match mode with
        | .sanitize => writeBody (writeLine dst (' ' :: endMarker)) mode more
        | .strict => (.error .endInBlockBody, dst)
      else writeBody (writeLine dst clean) mode more

def writeBlock (dst : Bytes) (header : Text) (lines : List Text) (mode : EncoderMode) :
    Except EncodeError Unit × Bytes :=
  writeBody (writeLine dst header) mode lines

@[simp] theorem strip_clean (s : Text) : WireClean (strip s) := by
  intro c member
  simpa using (List.mem_filter.mp member).2

theorem strip_of_clean {s : Text} (clean : WireClean s) : strip s = s := by
  refine List.filter_eq_self.mpr fun c member => ?_
  simpa using clean c member

theorem wireSafe_of_clean {s : Text} (clean : WireClean s) (field : Text) (mode : EncoderMode) :
    wireSafe s field mode = .ok s := by
  simp [wireSafe, clean]

@[simp] theorem wireSafe_sanitize (s field : Text) : wireSafe s field .sanitize = .ok (strip s) := by
  by_cases clean : WireClean s
  · rw [wireSafe_of_clean clean, strip_of_clean clean]
  · simp [wireSafe, clean]

theorem wireSafe_strict_error {s : Text} (dirty : ¬ WireClean s) (field : Text) :
    wireSafe s field .strict = .error (.unsafeCharacters field) := by
  simp [wireSafe, dirty]

theorem wireSafe_eq (s field : Text) (mode : EncoderMode) :
    wireSafe s field mode =
      if mode = .sanitize ∨ WireClean s then .ok (strip s) else .error (.unsafeCharacters field) := by
  by_cases clean : WireClean s
  · simp [wireSafe_of_clean clean, strip_of_clean clean, clean]
  · cases mode with
    | sanitize => simp
    | strict => simp [wireSafe_strict_error clean, clean]

@[simp] theorem wireClean_nil : WireClean [] := by simp [WireClean]

@[simp] theorem wireClean_append {a b : Text} : WireClean (a ++ b) ↔ WireClean a ∧ WireClean b := by
  simp [WireClean, or_imp, forall_and]

@[simp] theorem wireClean_cons {c : Char} {s : Text} :
    WireClean (c :: s) ↔ c ∉ wireUnsafe ∧ WireClean s := by
  simp [WireClean]

theorem mem_escape {c : Char} {s : Text} (member : c ∈ escape s) : c = '\\' ∨ c ∈ s := by
  induction s using escape.induct with
  | case1 => simp [escape] at member
  | case2 rest ih =>
    simp only [escape, List.mem_cons] at member
    grind
  | case3 rest ih =>
    simp only [escape, List.mem_cons] at member
    grind
  | case4 x rest _ _ ih =>
    rw [escape] at member
    · grind
    · assumption
    · assumption

theorem escape_clean {s : Text} (clean : WireClean s) : WireClean (escape s) := by
  intro c member
  rcases mem_escape member with rfl | original
  · decide
  · exact clean c original

theorem quote_clean {s : Text} (clean : WireClean s) : WireClean (quote s) := by
  rw [quote, List.cons_append, wireClean_cons, wireClean_append]
  exact ⟨by decide, clean, by decide⟩

end MgmtEncoder
