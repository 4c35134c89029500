import ForgeBridge.Url.Idna.Allowed
import ForgeBridge.Url.Idna.Replacements

/-!
How the characters of a domain name are read: capital letters as small ones, and letters in other
shapes in their usual shape.
-/

namespace ForgeBridge.Url.Idna

/-- Characters that are replaced alike. -/
structure Replacement where
  first : Nat
  last : Nat
  stride : Nat
  target : List Nat

/-- Reads an entry of the table. -/
def Replacement.ofText? (entry : List Char) : Option Replacement :=
  match Text.splitAt '>' entry with
  | [span, target] =>
    let (range, stride) :=
      match Text.splitAt '/' span with
      | [range, stride] => (range, Text.hexNumber stride)
      | _ => (span, 1)
    let (first, last) :=
      match Text.splitAt '-' range with
      | [first, last] => (Text.hexNumber first, Text.hexNumber last)
      | _ => (Text.hexNumber range, Text.hexNumber range)
    some ⟨first, last, stride, (Text.splitAt '.' target).map Text.hexNumber⟩
  | _ => none

/-- The table. -/
def replacements : List Replacement :=
  replacementLines.flatMap fun line => (Text.splitAt ' ' line.toList).filterMap Replacement.ofText?

/-- Whether a replacement is for a code point. -/
def Replacement.covers (r : Replacement) (n : Nat) : Bool :=
  r.first ≤ n && n ≤ r.last && (n - r.first) % r.stride = 0

/-- What a code point is replaced by. -/
def Replacement.apply (r : Replacement) (n : Nat) : List Char :=
  match r.target with
  | [] => []
  | t :: ts => .ofNat (t + (n - r.first)) :: ts.map .ofNat

/-- What becomes of a character. -/
inductive Fate where
  | kept
  | dropped
  | replaced (others : List Char)
  | refused
deriving DecidableEq

def fate (c : Char) : Fate :=
  if c.toNat < 128 then if c.isUpper then .replaced [c.toLower] else .kept
  else if allowedRanges.contains c then .kept
  else if ignoredRanges.contains c then .dropped
  else
    match replacements.find? (·.covers c.toNat) with
    | some r => .replaced (r.apply c.toNat)
    | none => .refused

/-- A text with the characters that it stands for; none if one of them must not be there. -/
def mapped? : List Char → Option (List Char)
  | [] => some []
  | c :: cs =>
    match fate c with
    | .kept => (mapped? cs).map (c :: ·)
    | .dropped => mapped? cs
    | .replaced others => (mapped? cs).map (others ++ ·)
    | .refused => none

end ForgeBridge.Url.Idna
