import ForgeBridge.Url.Parser

/-!
What a request can carry as an address. This reader is stricter than the one of URLs in the name of
the server, and it knows how long an address may be.
-/

namespace ForgeBridge.Net.Uri

/-- How many bytes an address may have. -/
def limit : Nat := 65534

/-- A character that may stand in a path. -/
def isPathChar (c : Char) : Bool :=
  '!' ≤ c && c ∉ ['#', '<', '>', '?', '\x60']

/-- A character that may stand in a query. -/
def isQueryChar (c : Char) : Bool :=
  '!' ≤ c && c ∉ ['"', '#', '<', '>']

/-- The path of a text that starts with one; what follows a number sign does not count. -/
def pathOf? (cs : List Char) : Option (List Char) :=
  let counted := cs.takeWhile (· ≠ '#')
  let path := counted.takeWhile (· ≠ '?')
  let query := (counted.dropWhile (· ≠ '?')).drop 1
  if path.all isPathChar && query.all isQueryChar then some path else none

/-! ## Names of servers -/

/-- A character that may stand in the name of a server, besides brackets, colons and the at sign. -/
def isServerChar (c : Char) : Bool :=
  c.isAlphanum || ['!', '$', '%', '&', '\'', '(', ')', '*', '+', ',', '-', '.', ';', '=', '_', '~'].contains c

/-- What has been seen of the name of a server. The counts start again behind an at sign and behind
a bracket. -/
structure ServerName where
  colons : Nat
  hasPercent : Bool
  isOpened : Bool
  isClosed : Bool
  endsInAt : Bool

namespace ServerName

def empty : ServerName := ⟨0, false, false, false, false⟩

/-- Takes in one character. -/
def step (s : ServerName) (c : Char) : Option ServerName :=
  let s := { s with endsInAt := c = '@' }
  if c = ':' then if 8 ≤ s.colons then none else some { s with colons := s.colons + 1 }
  else if c = '[' then if s.hasPercent ∨ s.isOpened then none else some { s with isOpened := true }
  else if c = ']' then
    if s.isOpened ∧ ¬s.isClosed then
      some { s with isClosed := true, colons := 0, hasPercent := false }
    else none
  else if c = '@' then some { s with colons := 0, hasPercent := false }
  else if c = '%' then some { s with hasPercent := true }
  else if isServerChar c then some s
  else none

/-- Whether a name is complete. -/
def isComplete (s : ServerName) : Bool :=
  s.isOpened == s.isClosed && s.colons ≤ 1 && !s.endsInAt && !s.hasPercent

end ServerName

/-- A character that ends the name of a server. -/
def endsServer (c : Char) : Bool := c = '/' || c = '?' || c = '#'

/-- The parts of a text that starts with the name of a server. -/
def serverOf? (cs : List Char) : Option (List Char × List Char) := do
  let name := cs.takeWhile (!endsServer ·)
  let s ← name.foldlM ServerName.step .empty
  if s.isComplete then some (name, cs.drop name.length) else none

/-! ## Whole addresses -/

/-- How long the scheme may be. -/
def schemeLimit : Nat := 64

/-- The scheme of a text, and what follows it and the two slashes. -/
def scheme? (cs : List Char) : Option (List Char × List Char) :=
  match cs.dropWhile Url.isSchemeChar with
  | ':' :: '/' :: '/' :: rest => some (cs.takeWhile Url.isSchemeChar, rest)
  | _ => none

/-- The path of an address, given its scheme and what follows the two slashes. -/
def pathBehind? (scheme rest : List Char) : Option (List Char) := do
  if schemeLimit < scheme.length then none
  let (server, rest) ← serverOf? rest
  if server.isEmpty then none
  let path ← pathOf? rest
  return if path.isEmpty then ['/'] else path

/-- Whether a text that starts with a scheme can be an address. -/
def isAddress (text : String) : Bool :=
  text.utf8ByteSize ≤ limit &&
    match scheme? text.toList with
    | some (scheme, rest) => (pathBehind? scheme rest).isSome
    | none => false

end ForgeBridge.Net.Uri
