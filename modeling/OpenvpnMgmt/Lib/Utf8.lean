import OpenvpnMgmt.Lib.Text

/-!
Texts as bytes. The encoder and the checking decoder are the ones of the core library; below
are the facts a line protocol needs: an ASCII byte in encoded text is that ASCII character, so
separators and keywords can be looked for in the bytes.
-/
namespace Utf8Text
open TextOps

abbrev Bytes := List UInt8

def toUtf8 (t : Text) : Bytes := t.flatMap String.utf8EncodeChar

/- `none` on any byte sequence that is not well-formed UTF-8. -/
def fromUtf8 (bytes : Bytes) : Option Text := bytes.toByteArray.utf8Decode?.map Array.toList

@[simp] theorem toUtf8_nil : toUtf8 [] = [] := rfl

@[simp] theorem toUtf8_cons (c : Char) (t : Text) :
    toUtf8 (c :: t) = String.utf8EncodeChar c ++ toUtf8 t := rfl

@[simp] theorem toUtf8_append (a b : Text) : toUtf8 (a ++ b) = toUtf8 a ++ toUtf8 b :=
  List.flatMap_append

theorem fromUtf8_toUtf8 (t : Text) : fromUtf8 (toUtf8 t) = some t := by
  have decoded : t.utf8Encode.utf8Decode? = some t.toArray := List.utf8Decode?_utf8Encode
  rw [fromUtf8, show (toUtf8 t).toByteArray = t.utf8Encode from rfl, decoded]
  simp

theorem toUtf8_fromUtf8 {bytes : Bytes} {t : Text} (decoded : fromUtf8 bytes = some t) :
    toUtf8 t = bytes := by
  obtain ⟨chars, found, rfl⟩ := Option.map_eq_some_iff.mp decoded
  have known : bytes.toByteArray.utf8Decode?.isSome := by simp [found]
  have whole := ByteArray.utf8Encode_get_utf8Decode? (h := known)
  simp only [found, Option.get_some] at whole
  have same : (toUtf8 chars.toList).toByteArray = bytes.toByteArray := whole
  have lists := congrArg (fun b => b.data.toList) same
  simpa using lists

theorem ascii_byte {c : Char} {b : UInt8} (member : b ∈ String.utf8EncodeChar c)
    (ascii : b.toNat < 128) : c.toNat = b.toNat ∧ String.utf8EncodeChar c = [b] := by
  have bound : c.val.toNat = c.toNat := rfl
  simp only [String.utf8EncodeChar] at member ⊢
  split at member
  · rename_i small
    simp only [List.mem_singleton] at member
    subst member
    simp only [small, if_true, and_true]
    simp only [UInt8.toNat_ofNat']
    omega
  · split at member
    · simp only [List.mem_cons, List.not_mem_nil, or_false] at member
      rcases member with rfl | rfl <;> simp only [UInt8.toNat_ofNat'] at ascii <;> omega
    · split at member
      · simp only [List.mem_cons, List.not_mem_nil, or_false] at member
        rcases member with rfl | rfl | rfl <;> simp only [UInt8.toNat_ofNat'] at ascii <;> omega
      · simp only [List.mem_cons, List.not_mem_nil, or_false] at member
        rcases member with rfl | rfl | rfl | rfl <;>
          simp only [UInt8.toNat_ofNat'] at ascii <;> omega

theorem encode_ascii {c : Char} (ascii : c.toNat < 128) :
    String.utf8EncodeChar c = [UInt8.ofNat c.toNat] := by
  have small : c.val.toNat ≤ 127 := by change c.toNat ≤ 127; omega
  simp only [String.utf8EncodeChar, small, if_true]
  rfl

theorem ascii_mem_toUtf8 {c : Char} (ascii : c.toNat < 128) (t : Text) :
    UInt8.ofNat c.toNat ∈ toUtf8 t ↔ c ∈ t := by
  have value : (UInt8.ofNat c.toNat).toNat = c.toNat := by
    simp only [UInt8.toNat_ofNat']
    omega
  constructor
  · intro member
    obtain ⟨d, inside, byte⟩ := List.mem_flatMap.mp member
    have same := (ascii_byte byte (by omega)).1
    have : d = c := Char.ext (UInt32.toNat_inj.mp (by rw [value] at same; exact same))
    exact this ▸ inside
  · intro member
    exact List.mem_flatMap.mpr ⟨c, member, by simp [encode_ascii ascii]⟩

/-- An ASCII keyword starts the bytes only if it starts the text. -/
theorem prefix_of_toUtf8 {keyword t : Text} (ascii : ∀ c ∈ keyword, c.toNat < 128)
    (start : toUtf8 keyword <+: toUtf8 t) : keyword <+: t := by
  induction keyword generalizing t with
  | nil => exact List.nil_prefix
  | cons k more ih =>
    have small := ascii k (by simp)
    have value : (UInt8.ofNat k.toNat).toNat = k.toNat := by
      simp only [UInt8.toNat_ofNat']
      omega
    rw [toUtf8_cons, encode_ascii small, List.singleton_append] at start
    cases t with
    | nil => simp at start
    | cons c rest =>
      rw [toUtf8_cons] at start
      cases bytes : String.utf8EncodeChar c with
      | nil => exact absurd bytes String.utf8EncodeChar_ne_nil
      | cons b bs =>
        rw [bytes, List.cons_append, List.cons_prefix_cons] at start
        obtain ⟨rfl, tail⟩ := start
        have byte : UInt8.ofNat k.toNat ∈ String.utf8EncodeChar c := by simp [bytes]
        obtain ⟨same, single⟩ := ascii_byte byte (by omega)
        rw [bytes] at single
        obtain ⟨-, rfl⟩ := List.cons.inj single
        have : c = k := Char.ext (UInt32.toNat_inj.mp (by rw [value] at same; exact same))
        subst this
        exact (List.cons_prefix_cons).mpr
          ⟨rfl, ih (fun x member => ascii x (by simp [member])) (by simpa using tail)⟩

end Utf8Text
