/-!
How alike two words are. Equal letters count as matched when they stand not too far apart; matched
letters in another order count for less.
-/

namespace ForgeBridge.Text

/-- How far apart two letters may stand in words of these lengths. -/
def reach (m n : Nat) : Nat := max m n / 2 - 1

/-- The first place of a letter that is within reach of a place and not taken. -/
def partner? (word : List Char) (reach place : Nat) (taken : List Nat) (c : Char) : Option Nat :=
  (List.range word.length).find? fun j =>
    place - reach ≤ j && j ≤ place + reach && word[j]? = some c && !taken.contains j

/-- The letters of a word that are matched with letters of another one, with the places of those,
last one first. -/
def partners (a b : List Char) : List (Char × Nat) :=
  a.zipIdx.foldl (fun found (c, i) =>
    match partner? b (reach a.length b.length) i (found.map (·.2)) c with
    | some j => (c, j) :: found
    | none => found) []

/-- How alike two words are, as a fraction: the mean of three parts, which are how much of either
word is matched and how many of the matched letters are in order. -/
def similarity (a b : List Char) : Nat × Nat :=
  let found := partners a b
  let m := found.length
  let inOrder := ((found.map (·.2)).mergeSort.filterMap (b[·]?)).zip (found.reverse.map (·.1))
  let swapped := (inOrder.filter fun (x, y) => x ≠ y).length / 2
  if m = 0 then (0, 1)
  else
    (m * m * b.length + m * m * a.length + (m - swapped) * a.length * b.length,
      3 * a.length * b.length * m)

/-- Whether two words are more than seven tenths alike. -/
def areAlike (a b : List Char) : Bool :=
  let (n, d) := similarity a b
  7 * d < 10 * n

/-- Of the words that are like a word, the one that is most like it; of several, the last. -/
def closest? (a : List Char) (words : List String) : Option String :=
  words.foldl (fun best w =>
    if areAlike a w.toList then
      match best with
      | none => some w
      | some v =>
        let (n, d) := similarity a v.toList
        let (n', d') := similarity a w.toList
        if n * d' ≤ n' * d then some w else best
    else best) none

end ForgeBridge.Text
