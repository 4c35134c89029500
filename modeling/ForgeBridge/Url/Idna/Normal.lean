import ForgeBridge.Url.Idna.Composites
import ForgeBridge.Url.Idna.Marks

/-!
The normal form of text: characters with their marks are taken apart, the marks are put in the order
of their classes, and all is put together again as far as there are characters for it.
-/

namespace ForgeBridge.Url.Idna

/-- A character that is made of two others. -/
structure Composite where
  whole : Char
  base : Char
  mark : Char

/-- Reads an entry of the table. -/
def Composite.ofText? (entry : List Char) : Option Composite :=
  match Text.splitAt '>' entry with
  | [whole, parts] =>
    match Text.splitAt '.' parts with
    | [base, mark] =>
      some ⟨.ofNat (Text.hexNumber whole), .ofNat (Text.hexNumber base), .ofNat (Text.hexNumber mark)⟩
    | _ => none
  | _ => none

/-- The table. -/
def composites : List Composite :=
  compositeLines.flatMap fun line => (Text.splitAt ' ' line.toList).filterMap Composite.ofText?

/-! ## Korean syllables -/

/-- The first syllable, and the first of each kind of letter. The last kind counts from the letter
before its first. -/
def syllableBase : Nat := 0xAC00
def leadBase : Nat := 0x1100
def vowelBase : Nat := 0x1161
def tailBase : Nat := 0x11A7

/-- How many letters of each kind there are. -/
def leadCount : Nat := 19
def vowelCount : Nat := 21
def tailCount : Nat := 28

/-- The number of a character from a start, if it is below a count. -/
def offset? (start count : Nat) (c : Char) : Option Nat :=
  if start ≤ c.toNat ∧ c.toNat < start + count then some (c.toNat - start) else none

/-- The letters of a syllable. -/
def lettersOf (syllable : Nat) : List Char :=
  let front := [
    .ofNat (leadBase + syllable / (vowelCount * tailCount)),
    .ofNat (vowelBase + syllable % (vowelCount * tailCount) / tailCount)]
  if syllable % tailCount = 0 then front else front ++ [.ofNat (tailBase + syllable % tailCount)]

/-- The syllable of two letters, or of a syllable and its last letter. -/
def syllable? (a b : Char) : Option Char :=
  match offset? leadBase leadCount a, offset? vowelBase vowelCount b with
  | some lead, some vowel => some (.ofNat (syllableBase + (lead * vowelCount + vowel) * tailCount))
  | _, _ =>
    match offset? syllableBase (leadCount * vowelCount * tailCount) a, offset? tailBase tailCount b with
    | some syllable, some tail =>
      if syllable % tailCount = 0 ∧ tail ≠ 0 then some (.ofNat (a.toNat + tail)) else none
    | _, _ => none

/-! ## Taking apart -/

/-- The parts of a character, taken apart a number of times. -/
def partsIn : Nat → Char → List Char
  | 0, c => [c]
  | n + 1, c =>
    match composites.find? (·.whole = c) with
    | some m => partsIn n m.base ++ [m.mark]
    | none => [c]

/-- The parts of a character. None has more than two marks besides its base and one of them. -/
def parts (c : Char) : List Char :=
  if c.toNat < 128 then [c]
  else
    match offset? syllableBase (leadCount * vowelCount * tailCount) c with
    | some syllable => lettersOf syllable
    | none => partsIn 4 c

/-! ## Order -/

/-- Puts a character in front of a text, behind the marks of lower classes. -/
def place (c : Char) : List Char → List Char
  | [] => [c]
  | x :: xs =>
    if 0 < combiningClass x ∧ combiningClass x < combiningClass c then x :: place c xs
    else c :: x :: xs

/-- A text with its marks in order. -/
def ordered (cs : List Char) : List Char := cs.foldr place []

/-! ## Putting together -/

/-- The character that is made of two others. -/
def compose? (a b : Char) : Option Char :=
  match syllable? a b with
  | some c => some c
  | none =>
    if b.toNat < 128 then none
    else (composites.find? fun m => m.base = a && m.mark = b).map (·.whole)

/-- Puts a text together behind a character that others can be joined to, and the marks that could
not be joined to it, last one first. A mark is joined only past marks of lower classes. -/
def composeFrom (base : Char) (marks : List Char) : List Char → List Char
  | [] => base :: marks.reverse
  | c :: cs =>
    let isBlocked := marks.head?.any (combiningClass c ≤ combiningClass ·)
    match if isBlocked then none else compose? base c with
    | some whole => composeFrom whole marks cs
    | none =>
      if combiningClass c = 0 then base :: marks.reverse ++ composeFrom c [] cs
      else composeFrom base (c :: marks) cs

/-- Puts a text together. Marks at its start have nothing to be joined to. -/
def composed (cs : List Char) : List Char :=
  let front := cs.takeWhile (combiningClass · ≠ 0)
  match cs.drop front.length with
  | [] => front
  | c :: rest => front ++ composeFrom c [] rest

/-- The normal form of a text. -/
def normal (cs : List Char) : List Char :=
  if cs.all (·.toNat < 128) then cs else composed (ordered (cs.flatMap parts))

end ForgeBridge.Url.Idna
