import ForgeBridge.Text.Pieces

/-!
Internet addresses of 32 bits.
-/

namespace ForgeBridge.Net

structure Ipv4 where
  value : UInt32
deriving DecidableEq

namespace Ipv4

/-- The four bytes, most significant first. -/
def bytes (a : Ipv4) : List UInt8 :=
  [(a.value >>> 24).toUInt8, (a.value >>> 16).toUInt8, (a.value >>> 8).toUInt8, a.value.toUInt8]

/-- The address of four bytes. -/
def ofBytes (a b c d : Nat) : Ipv4 := ⟨.ofNat (((a * 256 + b) * 256 + c) * 256 + d)⟩

/-- Four decimal numbers with dots between them. -/
def display (a : Ipv4) : String :=
  ".".intercalate (a.bytes.map fun b => toString b.toNat)

/-- One of the four numbers, without leading zeros. -/
def byte? (cs : List Char) : Option Nat :=
  match cs with
  | '0' :: _ :: _ => none
  | _ =>
    match Text.decimal? cs with
    | some n => if n < 256 then some n else none
    | none => none

/-- Reads what `display` writes. -/
def ofText? (cs : List Char) : Option Ipv4 :=
  match (Text.splitAt '.' cs).map byte? with
  | [some a, some b, some c, some d] => some (ofBytes a b c d)
  | _ => none

end Ipv4

end ForgeBridge.Net
