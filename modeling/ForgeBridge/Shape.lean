import ForgeBridge.Numeric.Shortest
import ForgeBridge.Text.Quoted

/-!
Shapes of structured data: what a text in some format has to hold for the program to read it. A
shape says which values it describes (`Shape.Val`), so that a reader of any format is one function
`(s : Shape) → … → s.Val`, and `Mismatch` says how a text can fall short of a shape, whatever the
format.

A record may be written by the names of its members or, in order, as a list of them. Members of
other names are passed over.
-/

namespace ForgeBridge

/-- Whether a member of a record may be left out. -/
inductive Presence where
  /-- It has to be there. -/
  | required
  /-- It may be missing or null; a record written as a list still has a place for it. -/
  | nullable
  /-- It may be missing, but not null. -/
  | defaulted
deriving DecidableEq

mutual

inductive Shape where
  | text
  /-- A whole number of 64 bits. -/
  | natural
  /-- A list of anything, of which only the length is kept. -/
  | tally
  | list (item : Shape)
  /-- Any names, each with a value; what is read is in the order of the text, repetitions
  included. -/
  | table (item : Shape)
  | record (name : String) (members : Members)

inductive Members where
  | nil
  | cons (name : String) (presence : Presence) (shape : Shape) (others : Members)

end

/-- The values of a member, given those of its shape. -/
@[reducible] def Presence.Val (α : Type) : Presence → Type
  | .required => α
  | .nullable => Option α
  | .defaulted => Option α

mutual

/-- The values a shape describes. -/
@[reducible] def Shape.Val : Shape → Type
  | .text => String
  | .natural => UInt64
  | .tally => Nat
  | .list item => List item.Val
  | .table item => List (String × item.Val)
  | .record _ members => members.Val

/-- The values of all members, in order. -/
@[reducible] def Members.Val : Members → Type
  | .nil => Unit
  | .cons _ presence shape others => presence.Val shape.Val × others.Val

end

/-- What is known of the members while a record is read. -/
@[reducible] def Members.Slots : Members → Type
  | .nil => Unit
  | .cons _ presence shape others => Option (presence.Val shape.Val) × others.Slots

/-- Nothing is known yet. -/
def Members.unfilled : (ms : Members) → ms.Slots
  | .nil => ()
  | .cons _ _ _ others => (none, others.unfilled)

/-- The number of members. -/
def Members.size : Members → Nat
  | .nil => 0
  | .cons _ _ _ others => others.size + 1

/-- What a reader says it expects. -/
def Shape.expected : Shape → String
  | .text => "a string"
  | .natural => "u64"
  | .tally => "a sequence"
  | .list _ => "a sequence"
  | .table _ => "a map"
  | .record name _ => "struct " ++ name

/-- What a reader says it expects of a record that is written as a list. -/
def Members.expectedList (name : String) (ms : Members) : String :=
  "struct " ++ name ++ " with " ++ toString ms.size ++
    if ms.size = 1 then " element" else " elements"

/-- The kind of value that was found instead of an expected one. -/
inductive Found where
  | null
  | boolean (value : Bool)
  | integer (value : Int)
  | float (value : Numeric.Binary64)
  | text (value : String)
  | sequence
  | mapping
deriving DecidableEq

/-- How a text falls short of a shape. -/
inductive Mismatch where
  | wrongType (found : Found) (expected : String)
  | wrongValue (found : Found) (expected : String)
  | wrongLength (length : Nat) (expected : String)
  | missing (member : String)
  | repeated (member : String)
deriving DecidableEq

/-- The words for a found value; formats differ in how they write a floating-point number. -/
def Found.message (float : Numeric.Binary64 → String) : Found → String
  | .null => "null"
  | .boolean value => "boolean `" ++ toString value ++ "`"
  | .integer value => "integer `" ++ toString value ++ "`"
  | .float value => "floating point `" ++ float value ++ "`"
  | .text value => "string " ++ Text.quoted value
  | .sequence => "sequence"
  | .mapping => "map"

/-- The words for a mismatch. -/
def Mismatch.message (float : Numeric.Binary64 → String) : Mismatch → String
  | .wrongType found expected => "invalid type: " ++ found.message float ++ ", expected " ++ expected
  | .wrongValue found expected => "invalid value: " ++ found.message float ++ ", expected " ++ expected
  | .wrongLength length expected => "invalid length " ++ toString length ++ ", expected " ++ expected
  | .missing member => "missing field `" ++ member ++ "`"
  | .repeated member => "duplicate field `" ++ member ++ "`"

/-- The members once all are read: a required one that was not there is missing, the others are
then absent. The first missing one is told. -/
def Members.collect : (ms : Members) → ms.Slots → Except Mismatch ms.Val
  | .nil, () => .ok ()
  | .cons _ _ _ others, (some value, slots) => do
    let values ← others.collect slots
    return (value, values)
  | .cons name .required _ _, (none, _) => .error (.missing name)
  | .cons _ .nullable _ others, (none, slots) => do
    let values ← others.collect slots
    return (none, values)
  | .cons _ .defaulted _ others, (none, slots) => do
    let values ← others.collect slots
    return (none, values)

end ForgeBridge
