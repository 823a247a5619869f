import NetworkIsolation.Json.Printer
import NetworkIsolation.Json.Scanner
import NetworkIsolation.Proofs.Results

/-!
# Strings that are read back

A string that is written between quotes is read back as it was, whatever follows
its closing quote.  The step is one character: its escape is read as the
character, and the rest of the string is read behind it.
-/

namespace NetworkIsolation.Json

theorem hexValue?_hexDigit {value : Nat} (small : value < 16) :
    hexValue? (hexDigit value) = some value := by
  have table : ∀ digit : Fin 16, hexValue? (hexDigit digit.val) = some digit.val := by decide
  exact table ⟨value, small⟩

/-- The four digits of a control character are read as its code. -/
theorem scanHex_control {code : Nat} (small : code < 0x20) (rest : List Char) :
    scanHex ('0' :: '0' :: hexDigit (code / 16) :: hexDigit (code % 16) :: rest) =
      .ok (code, rest) := by
  have zero : hexValue? '0' = some 0 := by decide
  have high : hexValue? (hexDigit (code / 16)) = some (code / 16) :=
    hexValue?_hexDigit (by omega)
  have low : hexValue? (hexDigit (code % 16)) = some (code % 16) :=
    hexValue?_hexDigit (by omega)
  have joined : ((0 * 16 + 0) * 16 + code / 16) * 16 + code % 16 = code := by omega
  simp only [scanHex, zero, high, low, joined]

theorem scanCodePoint_control {character : Char} (control : character.toNat < 0x20)
    (rest : List Char) :
    scanCodePoint ('0' :: '0' :: hexDigit (character.toNat / 16) ::
      hexDigit (character.toNat % 16) :: rest) = .ok (character, rest) := by
  have not_low : ¬ (0xdc00 ≤ character.toNat ∧ character.toNat ≤ 0xdfff) := by omega
  have not_high : ¬ (0xd800 ≤ character.toNat ∧ character.toNat ≤ 0xdbff) := by omega
  rw [scanCodePoint, scanHex_control control]
  simp only [ok_bind, Bool.and_eq_true, decide_eq_true_eq, if_neg not_low, if_neg not_high,
    Char.ofNat_toNat]
  rfl

/-- The escape of a character is read as the character. -/
theorem scanStringChars_escapeChar (fuel : Nat) (character : Char) (text : List Char) :
    scanStringChars (fuel + 1) (escapeChar character ++ text) = (do
      let (characters, rest) ← scanStringChars fuel text
      return (character :: characters, rest)) := by
  unfold escapeChar
  split
  · rfl
  · rfl
  · rfl
  · rfl
  · rfl
  · rfl
  · rfl
  · split
    · rename_i control
      simp only [List.cons_append, List.nil_append]
      rw [scanStringChars]
      simp [scanEscape, scanCodePoint_control control]
    · rename_i not_quote not_backslash _ _ _ _ _ not_control
      simp only [List.cons_append, List.nil_append]
      rw [scanStringChars, if_neg not_quote, if_neg not_backslash, if_neg not_control]

theorem length_le_length_escaped (characters : List Char) :
    characters.length ≤ (characters.flatMap escapeChar).length := by
  induction characters with
  | nil => exact Nat.le_refl 0
  | cons character characters induction_hypothesis =>
      have written : escapeChar character ≠ [] := by
        unfold escapeChar
        split <;> simp
        split <;> simp
      have positive : 0 < (escapeChar character).length := List.length_pos_iff.mpr written
      rw [List.flatMap_cons, List.length_append, List.length_cons]
      omega

/-- Escaped characters are read back up to the closing quote. -/
theorem scanStringChars_escaped (characters rest : List Char) {fuel : Nat}
    (enough : characters.length < fuel) :
    scanStringChars fuel (characters.flatMap escapeChar ++ '"' :: rest) =
      .ok (characters, rest) := by
  induction characters generalizing fuel with
  | nil =>
      cases fuel with
      | zero => cases enough
      | succ fuel => rfl
  | cons character characters induction_hypothesis =>
      cases fuel with
      | zero => cases enough
      | succ fuel =>
          have still_enough : characters.length < fuel := Nat.lt_of_succ_lt_succ enough
          rw [List.flatMap_cons, List.append_assoc, scanStringChars_escapeChar,
            induction_hypothesis still_enough]
          rfl

theorem stringChars_append (text : String) (rest : List Char) :
    stringChars text ++ rest = '"' :: (text.toList.flatMap escapeChar ++ '"' :: rest) := by
  simp [stringChars]

/-- A string is read back behind its opening quote. -/
theorem scanString_escaped (text : String) (rest : List Char) :
    scanString (text.toList.flatMap escapeChar ++ '"' :: rest) = .ok (text, rest) := by
  have enough : text.toList.length <
      (text.toList.flatMap escapeChar ++ '"' :: rest).length + 1 := by
    have escaped := length_le_length_escaped text.toList
    rw [List.length_append]
    omega
  rw [scanString, scanStringChars_escaped _ _ enough]
  simp only [ok_bind, String.ofList_toList]
  rfl

end NetworkIsolation.Json
