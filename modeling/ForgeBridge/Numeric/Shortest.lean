import ForgeBridge.Numeric.Binary64

/-!
The fewest decimal digits that read back as a given floating-point value, and the two ways they
are laid out: with a point and without an exponent, or with an exponent.
-/

namespace ForgeBridge.Numeric

/-- The value `coefficient · 10 ^ exponent`. -/
structure Decimal where
  coefficient : Nat
  exponent : Int
deriving DecidableEq

/-- The decimal exponent of a positive ratio's first digit. -/
def leadingExponent (num den : Nat) : Int :=
  if den ≤ num then (toString (num / den)).length - 1
  else
    match (List.range 400).find? fun z => den ≤ num * Nat.pow 10 z with
    | some z => -(z : Int)
    | none => -400

namespace Decimal

/-- Whether a decimal lies among the reals that round to `x`. The ends of that interval belong to
it when the mantissa is even; it is narrower below a power of two. -/
def roundsTo (x : Magnitude) (d : Decimal) : Bool :=
  let (un, ud) := Magnitude.ratio ⟨1, x.exponent - 2⟩
  let below := if x.mantissa = Nat.pow 2 52 ∧ -1074 < x.exponent then 1 else 2
  let value := d.coefficient * Nat.pow 10 d.exponent.toNat * ud
  let unit := un * Nat.pow 10 (-d.exponent).toNat
  let low := (4 * x.mantissa - below) * unit
  let high := (4 * x.mantissa + 2) * unit
  if x.mantissa % 2 = 0 then low ≤ value && value ≤ high else low < value && value < high

/-- A decimal of `n` digits that rounds to `x`, when there is one: the nearer of the two neighbours
of `x` on the grid of `n` digits. -/
def ofDigits? (x : Magnitude) (n : Nat) : Option Decimal :=
  let (num, den) := x.ratio
  let grid : Int := leadingExponent num den + 1 - n
  let scaledNum := num * Nat.pow 10 (-grid).toNat
  let scaledDen := den * Nat.pow 10 grid.toNat
  let onGrid (c : Nat) : Decimal := if c = Nat.pow 10 n then ⟨1, grid + n⟩ else ⟨c, grid⟩
  let floor := onGrid (scaledNum / scaledDen)
  let next := onGrid (scaledNum / scaledDen + 1)
  match floor.roundsTo x, next.roundsTo x with
  | true, true => some (onGrid (roundEven scaledNum scaledDen))
  | true, false => some floor
  | false, true => some next
  | false, false => none

/-- The decimal of the fewest digits that rounds to `x`. Seventeen always suffice. -/
def shortest (x : Magnitude) : Decimal :=
  if x.mantissa = 0 then ⟨0, 0⟩
  else
    match (List.range 17).findSome? fun n => ofDigits? x (n + 1) with
    | some d => d
    | none => ⟨0, 0⟩

/-- The decimal exponent of the first digit. -/
def leading (d : Decimal) : Int := (toString d.coefficient).length - 1 + d.exponent

/-- With a point and at least one digit on each side of it. -/
def positional (d : Decimal) : String :=
  let digits := (toString d.coefficient).toList
  if 0 ≤ d.exponent then
    String.ofList (digits ++ List.replicate d.exponent.toNat '0') ++ ".0"
  else
    let places := (-d.exponent).toNat
    let padded := List.replicate (places + 1 - digits.length) '0' ++ digits
    String.ofList (padded.take (padded.length - places)) ++ "." ++
      String.ofList (padded.drop (padded.length - places))

/-- With one digit before the point and a signed exponent of at least two digits. -/
def scientific (d : Decimal) : String :=
  let mantissa :=
    match (toString d.coefficient).toList with
    | [] => ""
    | [c] => c.toString
    | c :: more => c.toString ++ "." ++ String.ofList more
  let e := toString d.leading.natAbs
  let sign := if d.leading < 0 then "-" else "+"
  mantissa ++ "e" ++ sign ++ (if e.length < 2 then "0" ++ e else e)

end Decimal

namespace Binary64

/-- The value in full, without an exponent. -/
def plain : Binary64 → String
  | .finite negative x => (if negative then "-" else "") ++ (Decimal.shortest x).positional
  | .infinite negative => if negative then "-inf" else "inf"
  | .notANumber => "NaN"

/-- The value with an exponent where its first digit is beyond the sixteenth place before the point
or the fifth after it, and in full otherwise. -/
def compact : Binary64 → String
  | .finite negative x =>
    let d := Decimal.shortest x
    (if negative then "-" else "") ++
      if -5 ≤ d.leading ∧ d.leading ≤ 15 then d.positional else d.scientific
  | .infinite negative => if negative then "-inf" else "inf"
  | .notANumber => "NaN"

end Binary64

end ForgeBridge.Numeric
