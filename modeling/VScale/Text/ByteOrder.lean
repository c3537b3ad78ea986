import Mathlib.Data.String.Basic

/-!
# The order of the bytes of a text

Texts are ordered by their characters.  UTF-8 keeps this order: comparing the
encoded bytes one by one gives the same answer.
-/

namespace Text

/-- The bytes of a text in UTF-8. -/
def bytes (text : String) : List UInt8 :=
  text.toUTF8.data.toList

theorem bytes_eq_flatMap (text : String) :
    bytes text = text.toList.flatMap String.utf8EncodeChar := by
  unfold bytes String.toUTF8
  rw [← String.utf8Encode_toList]
  simp [List.utf8Encode]

section Codes

variable {first second : Nat} {front back : List UInt8}

theorem cons_ofNat_lt
    (ordered : first < second)
    (small : second < 256) :
    UInt8.ofNat first :: front < UInt8.ofNat second :: back := by
  apply List.Lex.rel
  rw [UInt8.lt_iff_toNat_lt, UInt8.toNat_ofNat', UInt8.toNat_ofNat']
  omega

/-- A later byte decides when the first bytes agree. -/
theorem cons_ofNat_lt_of_le
    (ordered : first ≤ second)
    (small : second < 256)
    (later : first = second → front < back) :
    UInt8.ofNat first :: front < UInt8.ofNat second :: back := by
  rcases Nat.lt_or_eq_of_le ordered with less | same
  · exact cons_ofNat_lt less small
  · rw [same]
    exact List.Lex.cons (later same)

end Codes

/-- Whatever follows, a smaller character has the smaller bytes. -/
theorem utf8EncodeChar_append_lt
    {smaller larger : Char}
    (ordered : smaller < larger)
    (front back : List UInt8) :
    String.utf8EncodeChar smaller ++ front < String.utf8EncodeChar larger ++ back := by
  have codes : smaller.val.toNat < larger.val.toNat := ordered
  have bound : larger.val.toNat < 1114112 := by
    rcases larger.valid with low | high
    · omega
    · exact high.2
  unfold String.utf8EncodeChar
  generalize smaller.val.toNat = v at codes
  generalize larger.val.toNat = w at codes bound
  simp only
  -- A longer encoding starts with a larger byte; equally long ones are compared digit by digit.
  split
  · split
    · exact cons_ofNat_lt (by omega) (by omega)
    · split
      · exact cons_ofNat_lt (by omega) (by omega)
      · split
        · exact cons_ofNat_lt (by omega) (by omega)
        · exact cons_ofNat_lt (by omega) (by omega)
  · rw [if_neg (by omega : ¬ w ≤ 127)]
    split
    · split
      · exact cons_ofNat_lt_of_le (by omega) (by omega) fun _ =>
          cons_ofNat_lt (by omega) (by omega)
      · split
        · exact cons_ofNat_lt (by omega) (by omega)
        · exact cons_ofNat_lt (by omega) (by omega)
    · rw [if_neg (by omega : ¬ w ≤ 2047)]
      split
      · split
        · exact cons_ofNat_lt_of_le (by omega) (by omega) fun _ =>
            cons_ofNat_lt_of_le (by omega) (by omega) fun _ =>
              cons_ofNat_lt (by omega) (by omega)
        · exact cons_ofNat_lt (by omega) (by omega)
      · rw [if_neg (by omega : ¬ w ≤ 65535)]
        exact cons_ofNat_lt_of_le (by omega) (by omega) fun _ =>
          cons_ofNat_lt_of_le (by omega) (by omega) fun _ =>
            cons_ofNat_lt_of_le (by omega) (by omega) fun _ =>
              cons_ofNat_lt (by omega) (by omega)

theorem utf8EncodeChar_ne_nil (char : Char) : String.utf8EncodeChar char ≠ [] := by
  intro empty
  have length := String.length_utf8EncodeChar char
  rw [empty] at length
  exact absurd length (Nat.ne_of_lt (Char.utf8Size_pos char))

theorem flatMap_utf8EncodeChar_lt
    {first second : List Char}
    (ordered : first < second) :
    first.flatMap String.utf8EncodeChar < second.flatMap String.utf8EncodeChar := by
  induction ordered with
  | nil =>
      rename_i char rest
      rw [List.flatMap_nil, List.flatMap_cons]
      cases encoded : String.utf8EncodeChar char with
      | nil => exact absurd encoded (utf8EncodeChar_ne_nil char)
      | cons byte bytes => exact List.Lex.nil
  | rel less =>
      rw [List.flatMap_cons, List.flatMap_cons]
      exact utf8EncodeChar_append_lt less _ _
  | cons rest ih =>
      rw [List.flatMap_cons, List.flatMap_cons]
      exact List.append_left_lt ih

/-- Texts are ordered as their bytes are. -/
theorem bytes_lt_bytes_iff {first second : String} :
    bytes first < bytes second ↔ first < second := by
  have forward : ∀ {first second : String}, first < second → bytes first < bytes second := by
    intro first second ordered
    rw [bytes_eq_flatMap, bytes_eq_flatMap]
    exact flatMap_utf8EncodeChar_lt (String.lt_iff_toList_lt.mp ordered)
  refine ⟨fun ordered => ?_, forward⟩
  rcases lt_trichotomy first second with less | same | greater
  · exact less
  · rw [same] at ordered
    exact absurd ordered (List.lt_irrefl _)
  · exact absurd ordered (List.lt_asymm (forward greater))

end Text
