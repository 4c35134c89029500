import ForgeBridge.Net.Ipv4

/-!
Internet addresses of 128 bits. In their text, a double colon stands for one or more groups of zeros,
and the last two groups may be written as an address of 32 bits.
-/

namespace ForgeBridge.Net

/-- Eight groups of 16 bits. -/
structure Ipv6 where
  groups : List UInt16
  length_groups : groups.length = 8
deriving DecidableEq

namespace Ipv6

/-- A group of one to four hexadecimal digits. -/
def group? (cs : List Char) : Option UInt16 :=
  if cs.isEmpty ∨ 4 < cs.length then none
  else (cs.mapM Text.hexDigit?).map fun ds => .ofNat (ds.foldl (fun n d => n * 16 + d) 0)

/-- The two groups of an address of 32 bits. -/
def groupsOf (a : Ipv4) : List UInt16 := [(a.value >>> 16).toUInt16, a.value.toUInt16]

/-- Groups from pieces; with `mixed`, the last one may be an address of 32 bits. -/
def groups? (mixed : Bool) : List (List Char) → Option (List UInt16)
  | [] => some []
  | [piece] =>
    match mixed, Ipv4.ofText? piece with
    | true, some a => some (groupsOf a)
    | _, _ => (group? piece).map ([·])
  | piece :: pieces => do
    let g ← group? piece
    let gs ← groups? mixed pieces
    return g :: gs

/-- Groups with colons between them; there may be none. -/
def groupsIn? (mixed : Bool) (cs : List Char) : Option (List UInt16) :=
  if cs.isEmpty then some [] else groups? mixed (Text.splitAt ':' cs)

/-- The address of the groups before and behind a double colon. -/
def around (front back : List UInt16) : Option Ipv6 :=
  if h : front.length + back.length ≤ 7 then
    some ⟨front ++ List.replicate (8 - front.length - back.length) 0 ++ back, by simp; omega⟩
  else none

/-- Reads an address. -/
def ofText? (cs : List Char) : Option Ipv6 :=
  match Text.cut [':', ':'] cs with
  | some (front, back) => do
    let front ← groupsIn? false front
    let back ← groupsIn? true back
    around front back
  | none => do
    let groups ← groupsIn? true cs
    if h : groups.length = 8 then some ⟨groups, h⟩ else none

/-- The place and the length of the first longest run of zeros. -/
def longestZeros (groups : List UInt16) : Nat × Nat :=
  (List.range groups.length).foldl (fun best i =>
    let n := ((groups.drop i).takeWhile (· = 0)).length
    if best.2 < n then (i, n) else best) (0, 0)

def hexGroups (groups : List UInt16) : String :=
  ":".intercalate (groups.map fun g => Text.hexText g.toNat)

/-- The groups, the first longest run of at least two zeros as a double colon. -/
def compressed (a : Ipv6) : String :=
  let (i, n) := longestZeros a.groups
  if 1 < n then hexGroups (a.groups.take i) ++ "::" ++ hexGroups (a.groups.drop (i + n))
  else hexGroups a.groups

/-- As `compressed`, but the groups that stand for an address of 32 bits are shown as one. -/
def display (a : Ipv6) : String :=
  match a.groups with
  | [0, 0, 0, 0, 0, 0xFFFF, high, low] =>
    "::ffff:" ++ (Ipv4.mk ((high.toUInt32 <<< 16) ||| low.toUInt32)).display
  | _ => a.compressed

end Ipv6

end ForgeBridge.Net
