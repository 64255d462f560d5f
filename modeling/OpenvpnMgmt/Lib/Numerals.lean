import Mathlib.Algebra.Order.Ring.Nat
import Mathlib.Tactic.Ring

/-!
Decimal numerals as lists of characters. Numerals of one length are in the order of their values,
and so are texts that begin with them.
-/
namespace Numerals

def IsNumeral (p : List Char) : Prop := ∀ c ∈ p, c.isDigit = true

def value (p : List Char) : Nat := Nat.ofDigitChars 10 p 0

def digit (c : Char) : Nat := c.toNat - '0'.toNat

theorem digit_lt {c : Char} (is : c.isDigit = true) : digit c < 10 := by
  have bounds := Char.isDigit_iff_toNat.mp is
  have nine : '9'.toNat = 57 := rfl
  have zero : '0'.toNat = 48 := rfl
  unfold digit
  omega

theorem char_lt {c d : Char} (cDigit : c.isDigit = true) (dDigit : d.isDigit = true)
    (less : digit c < digit d) : c < d := by
  have cBounds := Char.isDigit_iff_toNat.mp cDigit
  have dBounds := Char.isDigit_iff_toNat.mp dDigit
  unfold digit at less
  have smaller : c.toNat < d.toNat := by omega
  exact smaller

theorem char_eq {c d : Char} (cDigit : c.isDigit = true) (dDigit : d.isDigit = true)
    (same : digit c = digit d) : c = d := by
  have cBounds := Char.isDigit_iff_toNat.mp cDigit
  have dBounds := Char.isDigit_iff_toNat.mp dDigit
  unfold digit at same
  exact Char.toNat_inj.mp (by omega)

theorem value_cons (c : Char) (p : List Char) :
    value (c :: p) = 10 ^ p.length * digit c + value p := by
  rw [value, Nat.ofDigitChars_cons, Nat.ofDigitChars_eq_ofDigitChars_zero, Nat.mul_zero,
    Nat.zero_add]
  rfl

theorem value_lt {p : List Char} (numeral : IsNumeral p) : value p < 10 ^ p.length := by
  induction p with
  | nil => simp [value]
  | cons c p ih =>
    have rest := ih fun d member => numeral d (by simp [member])
    have small := digit_lt (numeral c (by simp))
    have most : 10 ^ p.length * digit c ≤ 10 ^ p.length * 9 := Nat.mul_le_mul_left _ (by omega)
    rw [value_cons, List.length_cons, Nat.pow_succ]
    omega

theorem value_cons_lt {c d : Char} {p q : List Char} (numeral : IsNumeral p)
    (same : p.length = q.length) (less : digit c < digit d) : value (c :: p) < value (d :: q) := by
  have small := value_lt numeral
  have step : 10 ^ q.length * (digit c + 1) ≤ 10 ^ q.length * digit d := Nat.mul_le_mul_left _ less
  rw [value_cons, value_cons]
  rw [same] at small ⊢
  rw [Nat.mul_add] at step
  omega

/-- The greater value decides, whatever comes behind the numerals. -/
theorem numeral_lt {p q : List Char} (pNumeral : IsNumeral p) (qNumeral : IsNumeral q)
    (same : p.length = q.length) (less : value p < value q) (s t : List Char) :
    p ++ s < q ++ t := by
  induction p generalizing q with
  | nil =>
    obtain rfl := List.eq_nil_of_length_eq_zero same.symm
    simp [value] at less
  | cons c p ih =>
    cases q with
    | nil => simp at same
    | cons d q =>
      have tails : p.length = q.length := by simpa using same
      have cDigit := pNumeral c (by simp)
      have dDigit := qNumeral d (by simp)
      have pRest : IsNumeral p := fun e member => pNumeral e (by simp [member])
      have qRest : IsNumeral q := fun e member => qNumeral e (by simp [member])
      rw [List.cons_append, List.cons_append, List.cons_lt_cons_iff]
      rcases Nat.lt_trichotomy (digit c) (digit d) with smaller | equal | greater
      · exact Or.inl (char_lt cDigit dDigit smaller)
      · refine Or.inr ⟨char_eq cDigit dDigit equal, ih pRest qRest tails ?_⟩
        rw [value_cons, value_cons, equal, tails] at less
        omega
      · have wrong := value_cons_lt qRest tails.symm greater
        omega

end Numerals
