import ForgeBridge.Net.Ipv6

/-!
Addresses that a server listens at: an internet address and a port.
-/

namespace ForgeBridge.Net

inductive SocketAddress where
  | v4 (address : Ipv4) (port : UInt16)
  /-- A scope other than zero picks out one of the machine's networks. -/
  | v6 (address : Ipv6) (scope : UInt32) (port : UInt16)
deriving DecidableEq

namespace SocketAddress

/-- A decimal number below a bound. Leading zeros do not count. -/
def number? (bound : Nat) (cs : List Char) : Option Nat :=
  match Text.decimal? cs with
  | some n => if n < bound then some n else none
  | none => none

def port? (cs : List Char) : Option UInt16 := (number? UInt16.size cs).map .ofNat

/-- What stands between the brackets. -/
def scoped? (cs : List Char) : Option (Ipv6 × UInt32) :=
  match Text.cut ['%'] cs with
  | some (address, scope) => do
    let address ← Ipv6.ofText? address
    let scope ← number? UInt32.size scope
    return (address, .ofNat scope)
  | none => (Ipv6.ofText? cs).map (·, 0)

/-- Reads `1.2.3.4:80`, `[::1]:80` or `[fe80::1%2]:80`. -/
def ofText? (s : String) : Option SocketAddress :=
  match s.toList with
  | '[' :: cs => do
    let (inner, rest) ← Text.cut [']', ':'] cs
    let (address, scope) ← scoped? inner
    let port ← port? rest
    return .v6 address scope port
  | cs => do
    let (address, rest) ← Text.cut [':'] cs
    let address ← Ipv4.ofText? address
    let port ← port? rest
    return .v4 address port

def display : SocketAddress → String
  | .v4 address port => address.display ++ ":" ++ toString port.toNat
  | .v6 address scope port =>
    let zone := if scope = 0 then "" else "%" ++ toString scope.toNat
    "[" ++ address.display ++ zone ++ "]:" ++ toString port.toNat

end SocketAddress

end ForgeBridge.Net
