import ForgeBridge.Shape
import ForgeBridge.Text.Position
import ForgeBridge.Toml.Document

/-!
Reading a TOML text as a value of a shape. What is wrong with a value is told at the value; what is
wrong with a table that has no place of its own, at its key.
-/

namespace ForgeBridge.Toml

/-- A mismatch and where it is, when that is known. -/
structure Misfit where
  mismatch : Mismatch
  place : Option Place

/-- Gives a misfit a place unless it has one. -/
def Misfit.placedAt (place : Option Place) (m : Misfit) : Misfit :=
  { m with place := m.place.or place }

/-- The name under which a date or time holds its text, where a table is expected. -/
def dateTimeKey : String := "$__toml_private_datetime"

namespace Item

def found : Item → Found
  | .text _ s => .text s
  | .integer _ n => .integer n
  | .float _ x => .float x
  | .boolean _ b => .boolean b
  | .dateTime .. | .table .. => .mapping
  | .array .. | .tables .. => .sequence

/-- The elements of an array, or the tables of one name. -/
def items? : Item → Option (List Item)
  | .array _ items | .tables _ items => some items
  | _ => none

/-- The entries of a table. -/
def entries? : Item → Option Entries
  | .table _ _ entries => some entries
  | .dateTime place s => some [(⟨dateTimeKey, place⟩, .text place s)]
  | _ => none

/-- The failure of an item that is not of the expected kind. -/
def unexpected (expected : String) (item : Item) : Except Misfit α :=
  .error ⟨.wrongType item.found expected, item.place?⟩

/-- Places what is wrong inside an item at the item, unless it has a place. -/
def placing (item : Item) (r : Except Misfit α) : Except Misfit α :=
  r.mapError (Misfit.placedAt item.place?)

/-- Places what is wrong with the item of a key. -/
def placingAt (key : Key) (item : Item) (r : Except Misfit α) : Except Misfit α :=
  r.mapError (Misfit.placedAt (item.place?.or (some key.place)))

end Item

/-- A whole number that is not negative. -/
def naturalOf (item : Item) : Except Misfit UInt64 :=
  match item with
  | .integer place n =>
    if 0 ≤ n then .ok (.ofNat n.toNat)
    else .error ⟨.wrongValue item.found Shape.natural.expected, some place⟩
  | _ => item.unexpected Shape.natural.expected

/-- A member that is there. -/
def present : (p : Presence) → α → p.Val α
  | .required, a => a
  | .nullable, a => some a
  | .defaulted, a => some a

/-- A member for which a list has no element, if it may be absent. -/
def absent? : (p : Presence) → Option (p.Val α)
  | .required => none
  | .nullable => none
  | .defaulted => some none

mutual

/-- An item as a value of a shape. -/
def decode : (s : Shape) → Item → Except Misfit s.Val
  | .text, item =>
    match item with
    | .text _ s => .ok s
    | _ => item.unexpected Shape.text.expected
  | .natural, item => naturalOf item
  | .tally, item =>
    match item.items? with
    | some items => .ok items.length
    | none => item.unexpected Shape.tally.expected
  | .list shape, item =>
    match item.items? with
    | some items => item.placing (items.mapM fun x => decode shape x)
    | none => item.unexpected "a sequence"
  | .table shape, item =>
    match item.entries? with
    | some entries => item.placing <| entries.mapM fun (key, x) => do
      let value ← Item.placingAt key x (decode shape x)
      return (key.name, value)
    | none => item.unexpected "a map"
  | .record name ms, item =>
    match item.entries?, item.items? with
    | some entries, _ => item.placing do
      let slots ← entries.foldlM (fun slots (key, x) => decodeMember ms key x slots) ms.unfilled
      (ms.collect slots).mapError (⟨·, none⟩)
    | none, some items => item.placing (decodeList ms (ms.expectedList name) 0 items)
    | none, none => item.unexpected ("struct " ++ name)

/-- Takes in the item of a key, if it is one of a record's members. -/
def decodeMember : (ms : Members) → Key → Item → ms.Slots → Except Misfit ms.Slots
  | .nil, _, _, () => .ok ()
  | .cons name presence shape others, key, item, (known, slots) =>
    if key.name = name then
      match known with
      | some _ => .error ⟨.repeated name, none⟩
      | none => do
        let value ← Item.placingAt key item (decode shape item)
        return (some (present presence value), slots)
    else do
      let slots ← decodeMember others key item slots
      return (known, slots)

/-- The members of a record that is written as a list, from the one of the given index on. Further
elements are passed over. -/
def decodeList : (ms : Members) → String → Nat → List Item → Except Misfit ms.Val
  | .nil, _, _, _ => .ok ()
  | .cons _ presence shape others, expected, index, item :: items => do
    let value ← decode shape item
    let values ← decodeList others expected (index + 1) items
    return (present presence value, values)
  | .cons _ presence _ others, expected, index, [] =>
    match absent? presence with
    | none => .error ⟨.wrongLength index expected, none⟩
    | some a => do
      let values ← decodeList others expected (index + 1) []
      return (a, values)

end

/-- Why a text cannot be read. -/
inductive Reason where
  | badText (failure : Failure)
  | misfit (mismatch : Mismatch)
deriving DecidableEq

def Reason.message : Reason → String
  | .badText failure => failure.message
  | .misfit mismatch => mismatch.message Numeric.Binary64.plain

/-- A reason with its place in the text. -/
structure Error where
  reason : Reason
  position : Option Text.Position
deriving DecidableEq

/-- The line and the column, both counted from one, of a place in a text. -/
def position (text place : List Char) : Text.Position :=
  let before := text.take (text.length - place.length)
  let p := Text.Position.after (Text.bytes (.ofList before))
  ⟨p.line, p.column + 1⟩

/-- Reads a text as a value of a shape. -/
def read (s : Shape) (text : String) : Except Error s.Val :=
  match parse text.toList with
  | .error f => .error ⟨.badText f, some (position text.toList f.rest)⟩
  | .ok root =>
    match decode s root with
    | .error m => .error ⟨.misfit m.mismatch, m.place.map (position text.toList)⟩
    | .ok value => .ok value

end ForgeBridge.Toml
