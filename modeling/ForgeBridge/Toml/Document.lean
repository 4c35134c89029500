import ForgeBridge.Toml.Value

/-!
TOML texts. The lines of a text build up tables: a header opens one, and the keys that follow go
into it. The table that is open is put in its place when the next one is opened, so that its own
lines cannot reach it by another way.
-/

namespace ForgeBridge.Toml

open Toml.Parser

/-- The tables built so far: those that are closed, and the open one with the way to it. -/
structure Builder where
  root : Entries
  /-- The way to the open table; none for the root. -/
  path : List Key
  /-- Where the header of the open table stands. -/
  place : Option Place
  /-- Whether the open table is one of several of its name. -/
  isOneOfMany : Bool
  entries : Entries

namespace Builder

def start : Builder := ⟨[], [], none, false, []⟩

/-- A key as it is written in a message: in quotes when it has to be. -/
def spelled (name : String) : String :=
  let cs := name.toList
  if ¬cs.isEmpty ∧ cs.all isBareChar then name
  else
    let hasControl := cs.any fun c => c ≠ '\t' && (c < ' ' || c = '\x7f')
    if ¬hasControl ∧ ¬cs.contains '"' ∧ ¬cs.contains '\\' then "\"" ++ name ++ "\""
    else if ¬hasControl ∧ ¬cs.contains '\'' then "'" ++ name ++ "'"
    else "\"" ++ .ofList (cs.flatMap escaped) ++ "\""
where
  escaped (c : Char) : List Char :=
    match c with
    | '\x08' => ['\\', 'b']
    | '\t' => ['\\', 't']
    | '\n' => ['\\', 'n']
    | '\x0c' => ['\\', 'f']
    | '\r' => ['\\', 'r']
    | '"' => ['\\', '"']
    | '\\' => ['\\', '\\']
    | _ =>
      if c < ' ' ∨ c = '\x7f' then
        ['\\', 'u', '0', '0'] ++ (if c.toNat < 16 then ['0'] else []) ++
          (Nat.toDigits 16 c.toNat).map Char.toUpper
      else [c]

/-- The failure for a header of a name that stands already. -/
def taken (path : List Key) (key : Key) : Cause :=
  .repeatedIn (spelled key.name) (path.map (·.name))

/-- The parts of a way that is not empty. -/
def split (path : List Key) : Option (List Key × Key) :=
  path.getLast?.map fun last => (path.dropLast, last)

/-- Changes the table at the end of a path of headers. -/
def under (path : List Key) (root : Entries) (edit : Entries → Except Cause (Entries × α)) :
    Except Cause (Entries × α) :=
  Entries.within .implied false (fun _ entries => edit entries) [] path .header root

/-- Puts the open table in its place. -/
def close (b : Builder) : Except Cause Entries :=
  match split b.path with
  | none => return b.entries
  | some (path, key) =>
    let table := Item.table .header b.place b.entries
    Prod.fst <$> under path b.root fun entries =>
      match Entries.find? key.name entries with
      | none =>
        return (entries ++ [(key, if b.isOneOfMany then .tables b.place [table] else table)], ())
      | some (.tables place items) =>
        if b.isOneOfMany then
          return (Entries.replace key.name (.tables place (items ++ [table])) entries, ())
        else throw (taken path key)
      | some (.table kind _ _) =>
        if ¬b.isOneOfMany ∧ kind.isImplicit then
          return (Entries.replace key.name table entries, ())
        else throw (taken path key)
      | some _ => throw (taken path key)

/-- Opens a table. Headers inside it may have made it already; one that has a header or dotted keys
of its own is not opened again. -/
def openTable (path : List Key) (key : Key) (root : Entries) : Except Cause (Entries × Entries) :=
  under path root fun entries =>
    match Entries.find? key.name entries with
    | none => return (entries, [])
    | some (.table .implied _ sub) => return (Entries.remove key.name entries, sub)
    | some _ => throw (taken path key)

/-- Opens one more of several tables. -/
def openOneOfMany (path : List Key) (key : Key) (root : Entries) : Except Cause (Entries × Entries) :=
  under path root fun entries =>
    match Entries.find? key.name entries with
    | none | some (.tables ..) => return (entries, [])
    | some _ => throw (taken path key)

/-- Opens the table of a header. -/
def opened (isOneOfMany : Bool) (place : Place) (path : List Key) (key : Key) (b : Builder) :
    Except Cause Builder := do
  -- the open table may be the very one whose name stands twice
  let root ← b.close
  let (root, entries) ←
    if isOneOfMany then openOneOfMany path key root else openTable path key root
  return ⟨root, path ++ [key], some place, isOneOfMany, entries⟩

/-- Adds an item to the open table. -/
def assign (path : List Key) (key : Key) (item : Item) (b : Builder) : Except Cause Builder := do
  let entries ← Entries.assign .dotted (.repeatedIn · (b.path.map (·.name))) path key item .header
    b.entries
  return { b with entries := entries }

end Builder

/-- What may follow on a line is wanted. -/
def wantingLineEnd (p : Parser α) : Parser α := p.wanting [.character '\n', .character '#']

/-- A key with its value. -/
def keyValue (b : Builder) : Parser Builder :=
  checked
    (do
      let (path, key) ← key
      committed do
        equals
        blanks
        let item ← value (depthLimit - 1)
        wantingLineEnd lineRest
        return (path, key, item))
    fun (path, key, item) => (b.assign path key item).mapError some

/-- A header between the given brackets. -/
def headerLine (isOneOfMany : Bool) (open_ close_ : List Char) (b : Builder) : Parser Builder :=
  checked
    (do
      let place ← here
      word open_
      let (path, key) ← key.committed
      ((word close_).committed).wanting [.character '.', .token (.ofList close_)]
      (wantingLineEnd lineRest).committed
      return (place, path, key))
    fun (place, path, key) => (b.opened isOneOfMany place path key).mapError some

def header (b : Builder) : Parser Builder :=
  labelled "table header" do
    match (← here).take 2 with
    | ['[', '['] => headerLine true ['[', '['] [']', ']'] b
    | [_, _] => headerLine false ['['] [']'] b
    | _ => fail

/-- One expression of a text, or the end of an empty line. -/
def expression (b : Builder) : Parser Builder := do
  let b ← match ← peek with
    | none => fail
    | some c =>
      if c = '#' then (do comment; lineEnd; return b : Parser Builder).committed
      else if c = '[' then (header b).committed
      else if c = '\n' ∨ c = '\r' then (do newline; return b)
      else (keyValue b).committed
  blanks
  return b

/-- A whole text: the entries of its root. -/
def document : Parser Entries := do
  discard (optional (char '\ufeff'))
  blanks
  let b ← repeated expression .start
  finish
  match b.close with
  | .ok entries => return entries
  | .error cause => broken cause

/-- The root table of a text. -/
def parse (text : List Char) : Except Failure Item :=
  match document text with
  | .ok (entries, _) => .ok (.table .header (some text) entries)
  | .error f => .error f

end ForgeBridge.Toml
