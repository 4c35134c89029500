import ForgeBridge.Text.Pieces

/-!
Sets of characters given as ranges of code points, written compactly as text: hexadecimal numbers
and ranges such as `5c1-5c2`, separated by spaces.
-/

namespace ForgeBridge.Text

/-- A hexadecimal number in small letters; other characters count as nothing. -/
def hexNumber (cs : List Char) : Nat :=
  cs.foldl (fun n c =>
    if c.isDigit then n * 16 + (c.toNat - 0x30)
    else if 'a' ≤ c ∧ c ≤ 'f' then n * 16 + (c.toNat - 0x57)
    else n) 0

/-- Inclusive ranges of code points. -/
abbrev CodeRanges := List (Nat × Nat)

/-- Reads lines of the compact form. -/
def CodeRanges.ofText (lines : List String) : CodeRanges :=
  lines.flatMap fun line =>
    (splitAt ' ' line.toList).map fun piece =>
      match splitAt '-' piece with
      | [low, high] => (hexNumber low, hexNumber high)
      | _ => (hexNumber piece, hexNumber piece)

/-- Whether a character lies in one of the ranges. -/
def CodeRanges.contains (ranges : CodeRanges) (c : Char) : Bool :=
  ranges.any fun (low, high) => low ≤ c.toNat && c.toNat ≤ high

end ForgeBridge.Text
