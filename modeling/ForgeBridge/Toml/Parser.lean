/-!
Parsers over the characters of a TOML text, and the failures they tell of. A failure says what was
being read, what would have been accepted, and where the text stopped being understood; a place in a
text is the text from there on. A final failure is not mended by trying something else.
-/

namespace ForgeBridge.Toml

/-- Something that would have been accepted. -/
inductive Wanted where
  | character (c : Char)
  | token (s : String)
  | description (s : String)
deriving DecidableEq

def Wanted.message : Wanted → String
  | .character '\n' => "newline"
  | .character c => "`" ++ c.toString ++ "`"
  | .token s => "`" ++ s ++ "`"
  | .description s => s

/-- A rule of the format that is broken, beyond its grammar. -/
inductive Cause where
  /-- A name that stands twice in a table, which is told by the names that lead to it. -/
  | repeatedIn (key : String) (table : List String)
  | repeated (key : String)
  /-- Dotted names lead to something that is no table. -/
  | noTable (path : List String) (type : String)
  | outOfRange
  | tooDeep
  | tooLarge
  | tooSmall
deriving DecidableEq

/-- Names with dots between them. -/
def dotted (names : List String) : String := ".".intercalate names

def Cause.message : Cause → String
  | .repeatedIn key [] => "duplicate key `" ++ key ++ "` in document root"
  | .repeatedIn key table => "duplicate key `" ++ key ++ "` in table `" ++ dotted table ++ "`"
  | .repeated key => "duplicate key `" ++ key ++ "`"
  | .noTable path type =>
    "dotted key `" ++ dotted path ++ "` attempted to extend non-table type (" ++ type ++ ")"
  | .outOfRange => "value is out of range"
  | .tooDeep => "recursion limit exceeded"
  | .tooLarge => "number too large to fit in target type"
  | .tooSmall => "number too small to fit in target type"

/-- Why a text is not understood: the innermost thing that was being read, what it could have gone
on with, the broken rule if there is one, and the text from the place on. -/
structure Failure where
  label : Option String
  wanted : List Wanted
  cause : Option Cause
  rest : List Char
  final : Bool
deriving DecidableEq

namespace Failure

def before (rest : List Char) : Failure := ⟨none, [], none, rest, false⟩

/-- The lines of the words for a failure. -/
def lines (f : Failure) : List String :=
  (match f.label with
    | some label => ["invalid " ++ label]
    | none => []) ++
  (if f.wanted.isEmpty then [] else ["expected " ++ ", ".intercalate (f.wanted.map Wanted.message)]) ++
  (match f.cause with
    | some cause => [cause.message]
    | none => [])

/-- The words for a failure. -/
def message (f : Failure) : String := "\n".intercalate f.lines

end Failure

/-- Reads something from the front of a text and leaves the rest. -/
abbrev Parser := StateT (List Char) (Except Failure)

namespace Parser

/-- The text that is left. -/
def here : Parser (List Char) := fun cs => .ok (cs, cs)

/-- Fails at this place. -/
def fail : Parser α := fun cs => .error (.before cs)

/-- The next character, which is not read yet. -/
def peek : Parser (Option Char) := fun cs => .ok (cs.head?, cs)

/-- Reads one character of a class. -/
def satisfy (p : Char → Bool) : Parser Char
  | [] => .error (.before [])
  | c :: cs => if p c then .ok (c, cs) else .error (.before (c :: cs))

/-- Reads a character. -/
def char (c : Char) : Parser Unit := discard (satisfy (· = c))

/-- Reads these characters, all or none. -/
def word (w : List Char) : Parser Unit := fun cs =>
  if w.isPrefixOf cs then .ok ((), cs.drop w.length) else .error (.before cs)

/-- Reads all characters of a class. -/
def takeWhile (p : Char → Bool) : Parser (List Char) := fun cs =>
  .ok (cs.takeWhile p, cs.dropWhile p)

/-- Reads all characters of a class; there has to be one. -/
def takeWhile1 (p : Char → Bool) : Parser (List Char) := fun cs =>
  match cs.takeWhile p with
  | [] => .error (.before cs)
  | taken => .ok (taken, cs.dropWhile p)

/-- Reads exactly so many characters of a class. -/
def takeExactly (n : Nat) (p : Char → Bool) : Parser (List Char) := fun cs =>
  let taken := (cs.take n).takeWhile p
  if taken.length = n then .ok (taken, cs.drop n) else .error (.before cs)

/-- The end of the text. -/
def finish : Parser Unit := fun cs => if cs.isEmpty then .ok ((), []) else .error (.before cs)

/-- Changes how a parser fails. -/
def onFailure (change : Failure → Failure) (p : Parser α) : Parser α := fun cs =>
  match p cs with
  | .error f => .error (change f)
  | .ok r => .ok r

/-- From here on there is no other way to read the text. -/
def committed (p : Parser α) : Parser α := p.onFailure fun f => { f with final := true }

/-- Names what is being read, unless a part of it is named already. -/
def labelled (label : String) (p : Parser α) : Parser α :=
  p.onFailure fun f => { f with label := f.label.or (some label) }

/-- Tells what would have been accepted, after what is told already. -/
def wanting (wanted : List Wanted) (p : Parser α) : Parser α :=
  p.onFailure fun f => { f with wanted := f.wanted ++ wanted }

/-- The first of two ways that can be gone. -/
def orElse (p q : Parser α) : Parser α := fun cs =>
  match p cs with
  | .error f => if f.final then .error f else q cs
  | .ok r => .ok r

/-- Reads something that may be missing. -/
def optional (p : Parser α) : Parser (Option α) := fun cs =>
  match p cs with
  | .error f => if f.final then .error f else .ok (none, cs)
  | .ok (a, rest) => .ok (some a, rest)

/-- Looks at what is ahead; all failures are at this place. -/
def lookahead (p : Parser α) : Parser α := fun cs =>
  match p cs with
  | .error f => .error { f with rest := cs }
  | .ok (a, _) => .ok (a, cs)

/-- What was read has to have a meaning; else the failure is in front of it. -/
def checked (p : Parser α) (meaning : α → Except (Option Cause) β) : Parser β := fun cs =>
  match p cs with
  | .error f => .error f
  | .ok (a, rest) =>
    match meaning a with
    | .ok b => .ok (b, rest)
    | .error cause => .error { Failure.before cs with cause := cause }

/-- As `checked`, and there is no other way to read the text. -/
def settled (p : Parser α) (meaning : α → Except (Option Cause) β) : Parser β := fun cs =>
  match p cs with
  | .error f => .error f
  | .ok (a, rest) =>
    match meaning a with
    | .ok b => .ok (b, rest)
    | .error cause => .error { Failure.before cs with cause := cause, final := true }

/-- Fails at this place for a broken rule. -/
def broken (cause : Cause) : Parser α := fun cs => .error { Failure.before cs with cause := some cause }

/-- Goes on as long as the step can be made and reads something. -/
def repeated (step : σ → Parser σ) (s : σ) : Parser σ := fun cs =>
  match step s cs with
  | .error f => if f.final then .error f else .ok (s, cs)
  | .ok (t, rest) => if rest.length < cs.length then repeated step t rest else .ok (t, rest)
termination_by cs => cs.length

/-- Goes on until a step says that it was the last, or reads nothing. -/
def untilDone (step : Parser Bool) : Parser Unit := fun cs =>
  match step cs with
  | .error f => .error f
  | .ok (last, rest) =>
    if last then .ok ((), rest)
    else if rest.length < cs.length then untilDone step rest
    else .ok ((), rest)
termination_by cs => cs.length

/-- All that can be read in this way. -/
def many (p : Parser α) : Parser (List α) :=
  List.reverse <$> repeated (fun acc => (· :: acc) <$> p) []

/-- One thing or more, with something between them. What follows a separator has to be such a
thing, else the separator is not read either. -/
def separated (p : Parser α) (separator : Parser Unit) : Parser (List α) := do
  let first ← p
  let others ← many (separator *> p)
  return first :: others

end Parser

end ForgeBridge.Toml
