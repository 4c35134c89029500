/-!
References to issues in running text, such as `octocat/hello#12`. The words of a text that look like
one are found from left to right, each at the first place where one starts; a word whose number has
more than 64 bits names no issue.
-/

namespace ForgeBridge

/-- An issue or a pull request of a repository. -/
structure Reference where
  owner : String
  repo : String
  number : UInt64
deriving DecidableEq

namespace Reference

/-- The repository's full name. -/
def fullName (r : Reference) : String := r.owner ++ "/" ++ r.repo

/-- The word for a reference. -/
def display (r : Reference) : String := r.fullName ++ "#" ++ toString r.number.toNat

/-- A character of an owner's or a repository's name: ASCII letters and digits, and two signs. -/
def isNameChar (c : Char) : Bool := c.isAlphanum || c = '-' || c = '_'

/-- A word that looks like a reference. -/
structure Word where
  owner : List Char
  repo : List Char
  digits : List Char
deriving DecidableEq

/-- The word's text. -/
def Word.text (w : Word) : List Char := w.owner ++ '/' :: w.repo ++ '#' :: w.digits

/-- A name at the front of a text that is followed by the given mark. -/
def nameBefore (mark : Char) (cs : List Char) : Option (List Char × List Char) :=
  match cs.takeWhile isNameChar, cs.dropWhile isNameChar with
  | [], _ => none
  | _, [] => none
  | name, c :: rest => if c = mark then some (name, rest) else none

/-- The word at the front of a text, if there is one, with all digits that follow its mark. -/
def Word.atFront? (cs : List Char) : Option Word := do
  let (owner, cs) ← nameBefore '/' cs
  let (repo, cs) ← nameBefore '#' cs
  match cs.takeWhile Char.isDigit with
  | [] => none
  | digits => some ⟨owner, repo, digits⟩

theorem Word.text_ne_nil (w : Word) : w.text ≠ [] := by simp [text]

/-- A word in a text, with the number of characters in front of it. -/
structure Occurrence where
  start : Nat
  word : Word
deriving DecidableEq

/-- How far to go on where no word starts: to the end of the name, in which none starts either, or
past a character that is in no name. -/
def stride (cs : List Char) : Nat := max 1 (cs.takeWhile isNameChar).length

/-- The words of a text that has `start` characters in front of it. -/
def occurrencesFrom (start : Nat) (cs : List Char) : List Occurrence :=
  match cs with
  | [] => []
  | c :: rest =>
    match Word.atFront? (c :: rest) with
    | some w =>
      have : 0 < w.text.length := List.length_pos_iff.2 w.text_ne_nil
      ⟨start, w⟩ :: occurrencesFrom (start + w.text.length) ((c :: rest).drop w.text.length)
    | none =>
      have : 0 < stride (c :: rest) := Nat.le_max_left ..
      occurrencesFrom (start + stride (c :: rest)) ((c :: rest).drop (stride (c :: rest)))
termination_by cs.length
decreasing_by
  all_goals
    simp
    omega

/-- The words of a text that look like references, from left to right. -/
def occurrences (text : String) : List Occurrence := occurrencesFrom 0 text.toList

/-- The number that decimal digits stand for. -/
def numberOf (digits : List Char) : Nat :=
  digits.foldl (fun n c => n * 10 + (c.toNat - '0'.toNat)) 0

/-- The issue that a word names. -/
def ofWord? (w : Word) : Option Reference :=
  if numberOf w.digits < UInt64.size then
    some ⟨.ofList w.owner, .ofList w.repo, .ofNat (numberOf w.digits)⟩
  else none

/-- The references in a text, from left to right. -/
def findAll (text : String) : List Reference :=
  (occurrences text).filterMap fun o => ofWord? o.word

/-- The first reference in a text. -/
def findFirst (text : String) : Option Reference := (findAll text).head?

/-- Whether a text holds a word that looks like a reference. -/
def mentionedIn (text : String) : Bool := !(occurrences text).isEmpty

/-- The pattern of these words, as it is published. -/
def pattern : String := "([A-Za-z0-9_-]+)/([A-Za-z0-9_-]+)#([0-9]+)"

end Reference

end ForgeBridge
