import OpenvpnMgmt.App
import OpenvpnMgmt.Codec
import OpenvpnMgmt.Lib.Results

/-!
Which notifications the client survives. The only operation that can fail is the cut of the data
of a signing request at byte 40; the timestamps of a log line format at any value.
-/
namespace MgmtPreviews
open TextOps Utf8Text MgmtValues MgmtMessage MgmtCodec MgmtTimestamp MgmtApp Results

def InsideCharacter (data : Text) : Prop :=
  40 < (toUtf8 data).length ∧
    ∀ front back, data = front ++ back → (toUtf8 front).length ≠ 40

def CutsCharacter : Notification → Prop
  | .rsaSign data => InsideCharacter data
  | .pkSign data _ => InsideCharacter data
  | _ => False

theorem sliceTo_front (front back : Text) :
    sliceTo (front ++ back) (toUtf8 front).length = .ok front := by
  induction front with
  | nil => cases back <;> rfl
  | cons c rest ih =>
    have wide := c.utf8Size_pos
    obtain ⟨stop, positive⟩ := Nat.exists_eq_succ_of_ne_zero (Nat.ne_of_gt wide)
    have size : (toUtf8 (c :: rest)).length = stop + (toUtf8 rest).length + 1 := by
      simp only [toUtf8_cons, List.length_append, String.length_utf8EncodeChar]
      omega
    have left : stop + (toUtf8 rest).length + 1 - c.utf8Size = (toUtf8 rest).length := by omega
    rw [size, List.cons_append, sliceTo, if_pos (by omega), left, ih]
    rfl

theorem sliceTo_ok {t shown : Text} {stop : Nat} (taken : sliceTo t stop = .ok shown) :
    ∃ back, t = shown ++ back ∧ (toUtf8 shown).length = stop := by
  induction t generalizing stop shown with
  | nil =>
    cases stop with
    | zero =>
      cases taken
      exact ⟨[], rfl, rfl⟩
    | succ k => cases taken
  | cons c rest ih =>
    cases stop with
    | zero =>
      cases taken
      exact ⟨c :: rest, rfl, rfl⟩
    | succ k =>
      rw [sliceTo] at taken
      split at taken
      · rename_i fits
        obtain ⟨tail, inner, whole⟩ := map_eq_ok.mp taken
        subst whole
        obtain ⟨back, split, size⟩ := ih inner
        refine ⟨back, by rw [split, List.cons_append], ?_⟩
        simp only [toUtf8_cons, List.length_append, String.length_utf8EncodeChar, size]
        omega
      · cases taken

theorem preview_completes (data : Text) : Completes (preview data) ↔ ¬ InsideCharacter data := by
  unfold preview InsideCharacter
  constructor
  · intro completes inside
    obtain ⟨shown, taken⟩ := completes
    obtain ⟨back, split, size⟩ := sliceTo_ok taken
    have long : min (toUtf8 data).length 40 = 40 := by omega
    exact inside.2 shown back split (by omega)
  · intro boundary
    by_cases long : 40 < (toUtf8 data).length
    · have cut : min (toUtf8 data).length 40 = 40 := by omega
      obtain ⟨front, back, split, size⟩ :
          ∃ front back, data = front ++ back ∧ (toUtf8 front).length = 40 := by
        by_contra unsplit
        apply boundary
        refine ⟨long, ?_⟩
        intro front back split size
        exact unsplit ⟨front, back, split, size⟩
      rw [cut, split, ← size]
      exact ⟨front, sliceTo_front front back⟩
    · have whole : min (toUtf8 data).length 40 = (toUtf8 data).length := by omega
      have all := sliceTo_front data []
      rw [List.append_nil] at all
      rw [whole]
      exact ⟨data, all⟩

theorem formatTimestamp_completes (ts : U64) : Completes (orOverflow (formatTimestamp ts)) := by
  obtain ⟨text, value⟩ := formatTimestamp_ok ts
  rw [value]
  exact completes_ok text

/-- The client takes every notification but a signing request whose preview cuts a character. -/
theorem handleNotification_completes_iff (app : App) (n : Notification) :
    (∃ after, app.handleNotification n = .ok after) ↔ ¬ CutsCharacter n := by
  change Completes (app.handleNotification n) ↔ ¬ CutsCharacter n
  cases n with
  | state entry =>
    simp [App.handleNotification, App.handleState, CutsCharacter, formatTimestamp_completes]
  | log timestamp level message =>
    simp [App.handleNotification, CutsCharacter, formatTimestamp_completes]
  | echo timestamp param =>
    simp [App.handleNotification, CutsCharacter, formatTimestamp_completes]
  | rsaSign data => simp [App.handleNotification, CutsCharacter, preview_completes]
  | pkSign data algorithm => simp [App.handleNotification, CutsCharacter, preview_completes]
  | _ => simp [App.handleNotification, CutsCharacter]

def acrossTheCut : Text := List.replicate 39 'A' ++ ['é']

/-- The codec decodes a request to sign this data, and the client panics on it. -/
theorem preview_panics :
    (OvpnCodec.new.decode (toUtf8 (lit ">RSA_SIGN:" ++ acrossTheCut ++ ['\n']))).2.2 =
        .ok (some (.notification (.rsaSign acrossTheCut))) ∧
      App.new.handleNotification (.rsaSign acrossTheCut) = .error .slice := by
  constructor
  · decide +kernel
  · have cut : preview acrossTheCut = .error .slice := by decide +kernel
    rw [App.handleNotification, cut]
    rfl

end MgmtPreviews
