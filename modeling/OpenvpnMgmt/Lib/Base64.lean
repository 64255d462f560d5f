import OpenvpnMgmt.Lib.Utf8

/-!
The standard base64 alphabet with padding, and what a program may rely on when its engine comes
from outside.
-/
namespace Base64Text
open TextOps Utf8Text

def alphabet : Text := "ABCDEFGHIJKLMNOPQRSTUVWXYZabcdefghijklmnopqrstuvwxyz0123456789+/".toList

def IsBase64 (t : Text) : Prop := ∀ c ∈ t, c.isAlphanum ∨ c = '+' ∨ c = '/' ∨ c = '='

instance (t : Text) : Decidable (IsBase64 t) :=
  List.decidableBAll (fun c : Char => c.isAlphanum = true ∨ c = '+' ∨ c = '/' ∨ c = '=') t

def digit (n : Nat) : Char := alphabet.getD n 'A'

def value (c : Char) : Option Nat := alphabet.idxOf? c

/- Three bytes are four digits of six bits; one or two bytes are padded. -/
def encode : Bytes → Text
  | [] => []
  | [a] => [digit (a.toNat / 4), digit (a.toNat % 4 * 16), '=', '=']
  | [a, b] =>
    [digit (a.toNat / 4), digit (a.toNat % 4 * 16 + b.toNat / 16), digit (b.toNat % 16 * 4), '=']
  | a :: b :: c :: rest =>
    digit (a.toNat / 4) :: digit (a.toNat % 4 * 16 + b.toNat / 16) ::
      digit (b.toNat % 16 * 4 + c.toNat / 64) :: digit (c.toNat % 64) :: encode rest

def firstByte (p q : Nat) : UInt8 := UInt8.ofNat (p * 4 + q / 16)
def secondByte (q r : Nat) : UInt8 := UInt8.ofNat (q % 16 * 16 + r / 4)
def thirdByte (r s : Nat) : UInt8 := UInt8.ofNat (r % 4 * 64 + s)

/- Padding must be complete and its unused bits zero. -/
def decode : Text → Option Bytes
  | [] => some []
  | [p, q, '=', '='] => do
    let p ← value p
    let q ← value q
    if q % 16 = 0 then some [firstByte p q] else none
  | [p, q, r, '='] => do
    let p ← value p
    let q ← value q
    let r ← value r
    if r % 4 = 0 then some [firstByte p q, secondByte q r] else none
  | p :: q :: r :: s :: rest => do
    let p ← value p
    let q ← value q
    let r ← value r
    let s ← value s
    let more ← decode rest
    return firstByte p q :: secondByte q r :: thirdByte r s :: more
  | _ => none

theorem colon_not_mem_base64 {t : Text} (base64 : IsBase64 t) : ':' ∉ t := by
  intro member
  have letter := base64 ':' member
  revert letter
  decide

theorem digit_mem (n : Nat) : digit n ∈ alphabet := by
  rw [digit, List.getD_eq_getElem?_getD]
  cases found : alphabet[n]? with
  | none => exact List.mem_of_elem_eq_true rfl
  | some c => exact List.mem_of_getElem? found

theorem digit_isBase64 (n : Nat) :
    (digit n).isAlphanum ∨ digit n = '+' ∨ digit n = '/' ∨ digit n = '=' := by
  have every : IsBase64 alphabet := by decide +kernel
  exact every (digit n) (digit_mem n)

theorem digit_ne_pad (n : Nat) : digit n ≠ '=' := by
  have every : '=' ∉ alphabet := by decide +kernel
  exact fun same => every (same ▸ digit_mem n)

theorem encode_isBase64 (bytes : Bytes) : IsBase64 (encode bytes) := by
  induction bytes using encode.induct with
  | case1 => simp [encode, IsBase64]
  | case2 a => simpa [encode, IsBase64] using ⟨digit_isBase64 _, digit_isBase64 _⟩
  | case3 a b =>
    simpa [encode, IsBase64] using ⟨digit_isBase64 _, digit_isBase64 _, digit_isBase64 _⟩
  | case4 a b c rest ih =>
    intro x member
    simp only [encode, List.mem_cons] at member
    rcases member with rfl | rfl | rfl | rfl | later
    · exact digit_isBase64 _
    · exact digit_isBase64 _
    · exact digit_isBase64 _
    · exact digit_isBase64 _
    · exact ih x later

/-! Decoding undoes encoding -/

theorem value_digit {n : Nat} (small : n < 64) : value (digit n) = some n := by
  revert n
  decide +kernel

theorem ofNat_eq {b : UInt8} {n : Nat} (same : n = b.toNat) : UInt8.ofNat n = b := by
  rw [same, UInt8.ofNat_toNat]

theorem firstByte_bits (a : UInt8) {low : Nat} (small : low < 16) :
    firstByte (a.toNat / 4) (a.toNat % 4 * 16 + low) = a := ofNat_eq (by omega)

theorem secondByte_bits (b : UInt8) (high : Nat) {low : Nat} (small : low < 4) :
    secondByte (high * 16 + b.toNat / 16) (b.toNat % 16 * 4 + low) = b := by
  have byte := b.toNat_lt
  exact ofNat_eq (by omega)

theorem thirdByte_bits (c : UInt8) (high : Nat) :
    thirdByte (high * 4 + c.toNat / 64) (c.toNat % 64) = c := by
  have byte := c.toNat_lt
  exact ofNat_eq (by omega)

theorem decode_encode (bytes : Bytes) : decode (encode bytes) = some bytes := by
  induction bytes using encode.induct with
  | case1 => rfl
  | case2 a =>
    have byteA := a.toNat_lt
    have p := value_digit (show a.toNat / 4 < 64 by omega)
    have q := value_digit (show a.toNat % 4 * 16 < 64 by omega)
    have first := firstByte_bits a (show 0 < 16 by decide)
    simpa [encode, decode, p, q] using first
  | case3 a b =>
    have byteA := a.toNat_lt
    have byteB := b.toNat_lt
    have p := value_digit (show a.toNat / 4 < 64 by omega)
    have q := value_digit (show a.toNat % 4 * 16 + b.toNat / 16 < 64 by omega)
    have r := value_digit (show b.toNat % 16 * 4 < 64 by omega)
    have first := firstByte_bits a (show b.toNat / 16 < 16 by omega)
    have second := secondByte_bits b (a.toNat % 4) (show 0 < 4 by decide)
    simpa [encode, decode, digit_ne_pad, p, q, r, first] using second
  | case4 a b c rest ih =>
    have byteA := a.toNat_lt
    have byteB := b.toNat_lt
    have byteC := c.toNat_lt
    have p := value_digit (show a.toNat / 4 < 64 by omega)
    have q := value_digit (show a.toNat % 4 * 16 + b.toNat / 16 < 64 by omega)
    have r := value_digit (show b.toNat % 16 * 4 + c.toNat / 64 < 64 by omega)
    have s := value_digit (show c.toNat % 64 < 64 by omega)
    have first := firstByte_bits a (show b.toNat / 16 < 16 by omega)
    have second := secondByte_bits b (a.toNat % 4) (show c.toNat / 64 < 4 by omega)
    have third := thirdByte_bits c (b.toNat % 16)
    simp [encode, decode, digit_ne_pad, p, q, r, s, ih, first, second, third]

theorem digit_value {c : Char} {n : Nat} (known : value c = some n) : n < 64 ∧ digit n = c := by
  have size : alphabet.length = 64 := by decide +kernel
  rw [value] at known
  have found := List.of_findIdx?_eq_some known
  obtain ⟨small, same⟩ : ∃ h : n < alphabet.length, alphabet[n] = c := by
    have := List.findIdx?_eq_some_iff_getElem.mp known
    obtain ⟨h, same, _⟩ := this
    exact ⟨h, by simpa using same⟩
  refine ⟨by omega, ?_⟩
  rw [digit, List.getD_eq_getElem?_getD, List.getElem?_eq_getElem small, same]
  rfl

theorem firstByte_toNat {p q : Nat} (smallP : p < 64) (smallQ : q < 64) :
    (firstByte p q).toNat = p * 4 + q / 16 := by
  rw [firstByte, UInt8.toNat_ofNat']
  omega

theorem secondByte_toNat (q : Nat) {r : Nat} (smallR : r < 64) :
    (secondByte q r).toNat = q % 16 * 16 + r / 4 := by
  rw [secondByte, UInt8.toNat_ofNat']
  omega

theorem thirdByte_toNat (r : Nat) {s : Nat} (smallS : s < 64) :
    (thirdByte r s).toNat = r % 4 * 64 + s := by
  rw [thirdByte, UInt8.toNat_ofNat']
  omega

theorem encode_of_decode {t : Text} {bytes : Bytes} (decoded : decode t = some bytes) :
    encode bytes = t := by
  induction t using decode.induct generalizing bytes with
  | case1 =>
    cases decoded
    rfl
  | case2 p q =>
    simp only [decode, Option.bind_eq_bind, Option.bind_eq_some_iff] at decoded
    obtain ⟨x, first, y, second, decoded⟩ := decoded
    obtain ⟨smallX, rfl⟩ := digit_value first
    obtain ⟨smallY, rfl⟩ := digit_value second
    split at decoded
    · cases decoded
      have p : (x * 4 + y / 16) / 4 = x := by omega
      have q : (x * 4 + y / 16) % 4 * 16 = y := by omega
      rw [encode, firstByte_toNat smallX smallY, p, q]
    · cases decoded
  | case3 p q r notPad =>
    rw [decode] at decoded
    · simp only [Option.bind_eq_bind, Option.bind_eq_some_iff] at decoded
      obtain ⟨x, first, y, second, z, third, decoded⟩ := decoded
      obtain ⟨smallX, rfl⟩ := digit_value first
      obtain ⟨smallY, rfl⟩ := digit_value second
      obtain ⟨smallZ, rfl⟩ := digit_value third
      split at decoded
      · cases decoded
        have p : (x * 4 + y / 16) / 4 = x := by omega
        have q : (x * 4 + y / 16) % 4 * 16 + (y % 16 * 16 + z / 4) / 16 = y := by omega
        have r : (y % 16 * 16 + z / 4) % 16 * 4 = z := by omega
        rw [encode, firstByte_toNat smallX smallY, secondByte_toNat y smallZ, p, q, r]
      · cases decoded
    · exact notPad
  | case4 p q r s rest notTwo notOne ih =>
    rw [decode] at decoded
    · simp only [Option.bind_eq_bind, Option.bind_eq_some_iff] at decoded
      obtain ⟨x, first, y, second, z, third, w, fourth, more, inner, decoded⟩ := decoded
      obtain ⟨smallX, rfl⟩ := digit_value first
      obtain ⟨smallY, rfl⟩ := digit_value second
      obtain ⟨smallZ, rfl⟩ := digit_value third
      obtain ⟨smallW, rfl⟩ := digit_value fourth
      cases decoded
      have p : (x * 4 + y / 16) / 4 = x := by omega
      have q : (x * 4 + y / 16) % 4 * 16 + (y % 16 * 16 + z / 4) / 16 = y := by omega
      have r : (y % 16 * 16 + z / 4) % 16 * 4 + (z % 4 * 64 + w) / 64 = z := by omega
      have s : (z % 4 * 64 + w) % 64 = w := by omega
      rw [encode, firstByte_toNat smallX smallY, secondByte_toNat y smallZ,
        thirdByte_toNat z smallW, p, q, r, s, ih inner]
    · exact notTwo
    · exact notOne
  | case5 => 
    rw [decode] at decoded
    · cases decoded
    all_goals assumption

/-! Engines -/

structure Engine (ε : Type) where
  encode : Bytes → Text
  decode : Text → Except ε Bytes

/-- What its users rely on: the alphabet, and that nothing is lost. -/
structure Engine.Lawful {ε : Type} (engine : Engine ε) : Prop where
  alphabet : ∀ bytes, IsBase64 (engine.encode bytes)
  inverse : ∀ bytes, engine.decode (engine.encode bytes) = .ok bytes
  empty : engine.encode [] = []

structure Engine.Canonical {ε : Type} (engine : Engine ε) : Prop where
  inverse : ∀ bytes, engine.decode (engine.encode bytes) = .ok bytes
  plain : ∀ bytes, ':' ∉ engine.encode bytes
  canonical : ∀ {t bytes}, engine.decode t = .ok bytes → engine.encode bytes = t

def standard : Engine Unit := ⟨encode, fun t => (decode t).elim (.error ()) .ok⟩

theorem standard_lawful : standard.Lawful where
  alphabet := encode_isBase64
  inverse bytes := by simp [standard, decode_encode]
  empty := rfl

theorem standard_canonical : standard.Canonical where
  inverse := standard_lawful.inverse
  plain bytes := colon_not_mem_base64 (encode_isBase64 bytes)
  canonical := by
    intro t bytes decoded
    cases found : decode t with
    | none => simp [standard, found] at decoded
    | some read =>
      simp only [standard, found, Option.elim_some, Except.ok.injEq] at decoded
      rw [← decoded]
      exact encode_of_decode found

end Base64Text
