import ForgeBridge.Proofs.TomlTexts

/-!
# Writing TOML

Every list of entries has a TOML text (`isDocument_tableText`): an entry on each line, and each string between double
quotes, in which the characters that cannot stand there are given by their numbers.
-/

namespace ForgeBridge.Toml

/-! ## Strings -/

/-- A character between double quotes: as it is, or by its number. -/
def spell (c : Char) : List Char :=
  if isBasicChar c then [c]
  else ['\\', 'u', '0', '0', Nat.digitChar (c.toNat / 16), Nat.digitChar (c.toNat % 16)]

/-- All characters of several bytes stand for themselves. -/
theorem isBasicChar_of_le {c : Char} (h : 128 ≤ c.toNat) : isBasicChar c = true := by
  have hne : ∀ d : Char, d.toNat < 128 → c ≠ d := by
    rintro d hd rfl
    exact absurd hd (Nat.not_lt.2 h)
  have hspace : ' ' ≤ c := Char.le_def.2 (UInt32.le_iff_toNat_le.2 (Nat.le_trans (by decide) h))
  simp [isBasicChar, isCommentChar, hspace, hne]

theorem digitChar_of_lt : ∀ n < 16, isHexDigit (Nat.digitChar n) = true ∧ hexValue (Nat.digitChar n) = n := by decide

theorem isEscape_of_lt {c : Char} (h : c.toNat < 128) :
    IsEscape c ('u' :: ['0', '0', Nat.digitChar (c.toNat / 16), Nat.digitChar (c.toNat % 16)]) := by
  obtain ⟨hhigh, hhighValue⟩ := digitChar_of_lt (c.toNat / 16) (by omega)
  obtain ⟨hlow, hlowValue⟩ := digitChar_of_lt (c.toNat % 16) (by omega)
  have hzero : isHexDigit '0' = true ∧ hexValue '0' = 0 := by decide
  refine .short rfl (by simp [hzero.1, hhigh, hlow]) ?_
  simp only [numeral, List.foldl_cons, List.foldl_nil, hzero.2, hhighValue, hlowValue]
  omega

theorem spells_flatMap (s : List Char) : Spells s (s.flatMap spell) := by
  induction s with
  | nil => exact .nil
  | cons c s ih =>
    rw [List.flatMap_cons, spell]
    split
    case isTrue hc => exact .plain hc ih
    case isFalse hc =>
      have hlt : c.toNat < 128 := Nat.lt_of_not_le fun hle => hc (isBasicChar_of_le hle)
      exact .escape (isEscape_of_lt hlt) ih

/-- A string between double quotes. -/
def literal (s : String) : List Char := '"' :: (s.toList.flatMap spell ++ ['"'])

theorem isLineText_literal (s : String) : IsLineText s (literal s) := .basic (spells_flatMap s.toList)

/-! ## Tables -/

/-- An array of strings. -/
def arrayText : List String → List Char
  | [] => ['[', ']']
  | s :: ss => '[' :: (literal s ++ (ss.flatMap (',' :: literal ·) ++ [']']))

theorem follows_literals (ss : List String) : Follows (ss.map literal) (ss.flatMap (',' :: literal ·)) := by
  induction ss with
  | nil => exact .done (.blank blank_nil)
  | cons s ss ih => exact .item (t := []) (.blank blank_nil) (.blank blank_nil) ih

theorem isTexts_arrayText (ss : List String) : IsTexts ss (arrayText ss) := by
  refine ⟨ss.map literal, ?_, ?_⟩
  · cases ss with
    | nil => exact .empty (t := []) (.blank blank_nil)
    | cons s ss => exact .items (t := []) (.blank blank_nil) (follows_literals ss)
  · rw [List.forall₂_map_right_iff, List.forall₂_same]
    exact fun s _ => .line (isLineText_literal s)

/-- A line for each entry. -/
def tableText (es : List (String × List String)) : List Char :=
  es.flatMap fun e => literal e.1 ++ '=' :: (arrayText e.2 ++ ['\n'])

/-- The text of a table holds its entries. -/
theorem isDocument_tableText (es : List (String × List String)) : IsDocument es (tableText es) := by
  refine .inl ?_
  induction es with
  | nil => exact .last (.remark (w := []) blank_nil .absent)
  | cons e es ih =>
    have hline := IsLine.entry (w := []) blank_nil (.quoted (isLineText_literal e.1)) blank_nil blank_nil
      (isTexts_arrayText e.2) blank_nil .absent
    have hlines := AreLines.line hline .lineFeed ih
    simpa [tableText] using hlines

end ForgeBridge.Toml
