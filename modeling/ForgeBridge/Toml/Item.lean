import ForgeBridge.Numeric.Binary64
import ForgeBridge.Toml.Parser

/-!
What a TOML text holds. A place in the text is the text from there on.
-/

namespace ForgeBridge.Toml

/-- The text from a place on. -/
abbrev Place := List Char

/-- A name with the place where it stands. -/
structure Key where
  name : String
  place : Place
deriving DecidableEq

/-- How a table came to be. -/
inductive TableKind where
  /-- It has a header, or is the root. -/
  | header
  /-- A header inside it stands in the text. -/
  | implied
  /-- A dotted key leads into it. -/
  | dotted
  /-- It is written between braces. -/
  | inline
  /-- A dotted key between braces leads into it. -/
  | inlineDotted
deriving DecidableEq

/-- Whether a table is only there because something inside it is. -/
def TableKind.isImplicit : TableKind → Bool
  | .implied | .dotted | .inlineDotted => true
  | .header | .inline => false

def TableKind.isDotted : TableKind → Bool
  | .dotted | .inlineDotted => true
  | .header | .implied | .inline => false

def TableKind.isInline : TableKind → Bool
  | .inline | .inlineDotted => true
  | .header | .implied | .dotted => false

/-- A value with its place, or a table. A table that is only implied has no place of its own. -/
inductive Item where
  | text (place : Place) (s : String)
  | integer (place : Place) (n : Int)
  | float (place : Place) (x : Numeric.Binary64)
  | boolean (place : Place) (b : Bool)
  | dateTime (place : Place) (s : String)
  | array (place : Place) (items : List Item)
  | table (kind : TableKind) (place : Option Place) (entries : List (Key × Item))
  /-- Tables that have one header each of the same name. -/
  | tables (place : Option Place) (items : List Item)

/-- The entries of a table, in the order in which they came to be. -/
abbrev Entries := List (Key × Item)

namespace Item

/-- What an item is called when it should be a table. -/
def typeName : Item → String
  | .text .. => "string"
  | .integer .. => "integer"
  | .float .. => "float"
  | .boolean .. => "boolean"
  | .dateTime .. => "datetime"
  | .array .. => "array"
  | .table .. => "inline table"
  | .tables .. => "array of tables"

/-- Where an item stands. -/
def place? : Item → Option Place
  | .text place _ | .integer place _ | .float place _ | .boolean place _ | .dateTime place _
  | .array place _ => some place
  | .table _ place _ | .tables place _ => place

end Item

namespace Entries

/-- The item of a name. -/
def find? (name : String) : Entries → Option Item
  | [] => none
  | (key, item) :: rest => if key.name = name then some item else find? name rest

/-- Another item in place of that of a name. -/
def replace (name : String) (item : Item) (entries : Entries) : Entries :=
  entries.map fun e => if e.1.name = name then (e.1, item) else e

/-- The entries without that of a name. -/
def remove (name : String) (entries : Entries) : Entries :=
  entries.filter fun e => e.1.name ≠ name

/-- Goes into a table by a path of names and changes the entries of the table it leads to, which may
give something back. A table that is not there is made, of kind `fresh`. With `dotted`, a table that
has a header or braces of its own is not entered. A name that has several headers means the last
table of them. `walked` holds the names that led here. -/
def within (fresh : TableKind) (dotted : Bool)
    (edit : TableKind → Entries → Except Cause (Entries × α)) :
    (walked : List String) → List Key → TableKind → Entries → Except Cause (Entries × α)
  | _, [], kind, entries => edit kind entries
  | walked, key :: path, _, entries => do
    let walked := walked ++ [key.name]
    match find? key.name entries with
    | none =>
      let (sub, a) ← within fresh dotted edit walked path fresh []
      return (entries ++ [(key, .table fresh none sub)], a)
    | some (.table kind place sub) =>
      if kind.isInline ∧ ¬fresh.isInline then throw (.noTable walked "inline table")
      else if dotted ∧ ¬kind.isImplicit then throw (.repeated key.name)
      else
        let (sub, a) ← within fresh dotted edit walked path kind sub
        return (replace key.name (.table kind place sub) entries, a)
    | some (.tables place items) =>
      match items.getLast? with
      | some (.table kind header sub) =>
        let (sub, a) ← within fresh dotted edit walked path kind sub
        return (replace key.name (.tables place (items.dropLast ++ [.table kind header sub])) entries, a)
      | _ => throw (.noTable walked "array of tables")
    | some other => throw (.noTable walked other.typeName)

/-- Adds an item under a dotted key. A table that dotted keys lead into takes no other keys, and the
other way round. `taken` is the failure for a name that stands there already. -/
def assign (fresh : TableKind) (taken : String → Cause) (path : List Key) (key : Key) (item : Item)
    (kind : TableKind) (entries : Entries) : Except Cause Entries :=
  Prod.fst <$> within fresh true
    (fun kind entries =>
      if kind.isDotted = path.isEmpty then throw (.repeated key.name)
      else
        match find? key.name entries with
        | some _ => throw (taken key.name)
        | none => return (entries ++ [(key, item)], ()))
    [] path kind entries

end Entries

end ForgeBridge.Toml
