import ForgeBridge.Toml.Item
import ForgeBridge.Toml.Numbers
import ForgeBridge.Toml.Times

/-!
Keys and values of TOML. Arrays and tables between braces may stand in one another to a limited
depth.
-/

namespace ForgeBridge.Toml

open Toml.Parser

/-- How deep keys and brackets go at most. -/
def depthLimit : Nat := 80

/-! ## Keys -/

/-- A character of a key without quotes. -/
def isBareChar (c : Char) : Bool := c.isAlphanum || c = '-' || c = '_'

/-- One part of a key. -/
def simpleKey : Parser Key := do
  let place ← here
  let name ← match ← peek with
    | some '"' => basicString
    | some '\'' => literalString
    | _ => String.ofList <$> takeWhile1 isBareChar
  return ⟨name, place⟩

/-- A key: its last part, and those before it. -/
def key : Parser (List Key × Key) :=
  (labelled "key" (separated (blanks *> simpleKey <* blanks) (char '.'))).checked fun parts =>
    if depthLimit ≤ parts.length then .error (some .tooDeep)
    else
      match parts.getLast? with
      | some last => .ok (parts.dropLast, last)
      | none => .error none

/-- The mark between a key and its value. -/
def equals : Parser Unit := (char '=').wanting [.character '.', .character '=']

/-! ## Values -/

/-- What is told where no value starts: most likely the quotes of a string are missing. -/
def likeString (p : Parser α) : Parser α :=
  (p.labelled "string").wanting [.character '"', .character '\'']

/-- What is told of a number without its first digit. -/
def leadingDigit (p : Parser α) : Parser α := p.wanting [.description "leading digit"]

/-- The elements of an array and what stands around them. -/
def elements (value : Parser Item) : Parser (List Item) := do
  if (← peek) = some ']' then return []
  let items ← optional do
    let items ← separated (filler *> value <* filler) (char ',')
    discard (optional (char ','))
    return items
  filler
  return items.getD []

def array (value : Parser Item) : Parser (List Item) := do
  char '['
  let items ← (elements value).committed
  ((char ']').committed.labelled "array").wanting [.character ']']
  return items

/-- The pairs between braces. -/
def pairs (value : Parser Item) : Parser (List (List Key × Key × Item)) := do
  let pairs ← optional <| separated
    (do
      let (path, key) ← key
      committed do
        equals
        blanks
        let item ← value
        blanks
        return (path, key, item))
    (char ',')
  blanks
  return pairs.getD []

/-- The entries that pairs make. -/
def inlineEntries (pairs : List (List Key × Key × Item)) : Except Cause Entries :=
  pairs.foldlM (fun entries (path, key, item) =>
    Entries.assign .inlineDotted .repeated path key item .inline entries) []

def inlineTable (value : Parser Item) : Parser Entries := do
  char '\x7b'
  let entries ← committed <| (pairs value).checked fun pairs =>
    (inlineEntries pairs).mapError some
  ((char '\x7d').committed.labelled "inline table").wanting [.character '\x7d']
  return entries

def trueWord : Parser Bool := (fun _ => true) <$> (word ['t', 'r', 'u', 'e']).committed

def falseWord : Parser Bool := (fun _ => false) <$> (word ['f', 'a', 'l', 's', 'e']).committed

/-- A value that may hold others to a depth. -/
def value (depth : Nat) : Parser Item := do
  let place ← here
  match ← peek with
  | none => fail
  | some c =>
    if c = '"' ∨ c = '\'' then .text place <$> anyString
    else if c = '[' then
      match depth with
      | 0 => (broken .tooDeep).committed
      | depth + 1 => .array place <$> array (value depth)
    else if c = '\x7b' then
      match depth with
      | 0 => (broken .tooDeep).committed
      | depth + 1 => .table .inline (some place) <$> inlineTable (value depth)
    else if c = '+' ∨ c = '-' ∨ c.isDigit then
      -- dates first: a number would end in front of their first hyphen
      orElse (.dateTime place <$> dateTime) <|
        orElse (.float place <$> float) (.integer place <$> integer)
    else if c = '_' then leadingDigit (.integer place <$> integer)
    else if c = '.' then leadingDigit (.float place <$> float)
    else if c = 't' then likeString (.boolean place <$> trueWord)
    else if c = 'f' then likeString (.boolean place <$> falseWord)
    else if c = 'i' then
      likeString ((fun _ => .float place (.infinite false)) <$> word ['i', 'n', 'f'])
    else if c = 'n' then likeString ((fun _ => .float place .notANumber) <$> word ['n', 'a', 'n'])
    else likeString fail

end ForgeBridge.Toml
