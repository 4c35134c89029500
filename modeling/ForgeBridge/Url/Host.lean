import ForgeBridge.Net.Ipv6
import ForgeBridge.Url.Domain
import ForgeBridge.Url.Percent

/-!
Hosts of URLs. In URLs of special schemes a host is a domain name or an internet address; a name
that ends in a number is an address. Other URLs may hold almost anything.
-/

namespace ForgeBridge.Url

/-- Why a text is no URL. -/
inductive Error where
  | emptyHost
  | badDomain
  | badPort
  | badIpv4
  | badIpv6
  | badHostCharacter
  | relative
deriving DecidableEq

def Error.message : Error → String
  | .emptyHost => "empty host"
  | .badDomain => "invalid international domain name"
  | .badPort => "invalid port number"
  | .badIpv4 => "invalid IPv4 address"
  | .badIpv6 => "invalid IPv6 address"
  | .badHostCharacter => "invalid domain character"
  | .relative => "relative URL without a base"

inductive Host where
  | domain (name : String)
  | ipv4 (address : Net.Ipv4)
  | ipv6 (address : Net.Ipv6)
deriving DecidableEq

namespace Host

def display : Host → String
  | .domain name => name
  | .ipv4 address => address.display
  | .ipv6 address => "[" ++ address.compressed ++ "]"

/-! ## Numbers as addresses -/

/-- A number in hexadecimal with `0x` in front, octal with `0` in front, or decimal. A mark with no
digits behind it is zero. -/
def number? (cs : List Char) : Option Nat :=
  match cs with
  | [] => none
  | ['0'] => some 0
  | '0' :: 'x' :: ds | '0' :: 'X' :: ds => numeral? 16 ds
  | '0' :: ds => numeral? 8 ds
  | ds => numeral? 10 ds
where
  numeral? (base : Nat) (ds : List Char) : Option Nat := do
    let ds ← ds.mapM Text.hexDigit?
    if ds.all (· < base) then return ds.foldl (fun n d => n * base + d) 0 else none

/-- The pieces of a name between dots, without an empty last one. -/
def pieces (name : List Char) : List (List Char) :=
  let all := Text.splitAt '.' name
  if 1 < all.length ∧ all.getLast? = some [] then all.dropLast else all

/-- Whether a name has to be an address of 32 bits. -/
def endsInNumber (name : List Char) : Bool :=
  match (pieces name).getLast? with
  | some last => (!last.isEmpty && last.all Char.isDigit) || (number? last).isSome
  | none => false

/-- The address of up to four numbers; the last one fills all bytes that are left. -/
def ipv4OfNumbers? (ns : List Nat) : Option Net.Ipv4 :=
  match ns.getLast? with
  | none => none
  | some last =>
    let front := ns.dropLast
    if 3 < front.length ∨ front.any (255 < ·) ∨ Nat.pow 256 (4 - front.length) ≤ last then none
    else
      let high := front.foldl (fun n b => n * 256 + b) 0
      some ⟨.ofNat (high * Nat.pow 256 (4 - front.length) + last)⟩

/-- The address of a name that ends in a number. -/
def ipv4? (name : List Char) : Option Net.Ipv4 := do
  ipv4OfNumbers? (← (pieces name).mapM number?)

/-! ## Reading hosts -/

/-- The address between brackets, for a text that starts with a bracket. -/
def bracketed (cs : List Char) : Except Error Host :=
  match cs.getLast? with
  | some ']' =>
    match Net.Ipv6.ofText? (cs.drop 1).dropLast with
    | some a => .ok (.ipv6 a)
    | none => .error .badIpv6
  | _ => .error .badIpv6

/-- A host of a special scheme. -/
def ofText (cs : List Char) : Except Error Host :=
  match cs with
  | '[' :: _ => bracketed cs
  | _ =>
    match Text.ofBytes? (percentDecode (Text.bytes (.ofList cs))) with
    | none => .error .badDomain
    | some s =>
      match domainToAscii? s.toList with
      | none => .error .badDomain
      | some [] => .error .emptyHost
      | some name =>
        if endsInNumber name then
          match ipv4? name with
          | some a => .ok (.ipv4 a)
          | none => .error .badIpv4
        else .ok (.domain (.ofList name))

/-- A character that no host may hold. -/
def isForbidden (c : Char) : Bool :=
  ['\x00', '\t', '\n', '\r', ' ', '#', '/', ':', '<', '>', '?', '@', '[', '\\', ']', '^', '|'].contains c

/-- A host of another scheme. -/
def ofOtherText (cs : List Char) : Except Error Host :=
  match cs with
  | '[' :: _ => bracketed cs
  | _ =>
    if cs.any isForbidden then .error .badHostCharacter
    else .ok (.domain (.ofList (percentEncode .controls cs)))

end Host

end ForgeBridge.Url
