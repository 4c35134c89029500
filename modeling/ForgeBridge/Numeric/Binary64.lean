/-!
The 64-bit binary floating-point format, on exact whole numbers: a ratio is rounded to the nearest
value of the format, and products and quotients are rounded the same way.
-/

namespace ForgeBridge.Numeric

/-- A finite magnitude `mantissa · 2 ^ exponent`. Those that `Magnitude.nearest` builds have at most
53 bits of mantissa and an exponent from -1074 to 971. -/
structure Magnitude where
  mantissa : Nat
  exponent : Int
deriving DecidableEq

/-- A value of the 64-bit format. -/
inductive Binary64 where
  | finite (negative : Bool) (magnitude : Magnitude)
  | infinite (negative : Bool)
  | notANumber
deriving DecidableEq

/-- The whole number nearest to a ratio; of two equally near ones, the even one. -/
def roundEven (num den : Nat) : Nat :=
  let whole := num / den
  let twice := 2 * (num % den)
  if twice < den ∨ (twice = den ∧ whole % 2 = 0) then whole else whole + 1

/-- The ratio divided by a power of two. -/
def divPow2 (num den : Nat) (e : Int) : Nat × Nat :=
  (num * Nat.pow 2 (-e).toNat, den * Nat.pow 2 e.toNat)

namespace Magnitude

def zero : Magnitude := ⟨0, -1074⟩

/-- The magnitude nearest to a ratio; none when it is beyond the largest finite one. -/
def nearest (num den : Nat) : Option Magnitude :=
  if num = 0 then some zero
  else
    let low : Int := max (num.log2 - den.log2 - 53) (-1074)
    let (n, d) := divPow2 num den low
    -- the ratio of the logarithms may leave one bit too many
    let e := if n / d < Nat.pow 2 53 then low else low + 1
    let (n, d) := divPow2 num den e
    let m := roundEven n d
    -- rounding up may carry into another bit
    let x : Magnitude := if m = Nat.pow 2 53 then ⟨Nat.pow 2 52, e + 1⟩ else ⟨m, e⟩
    if x.exponent ≤ 971 then some x else none

/-- The magnitude as a ratio of whole numbers. -/
def ratio (x : Magnitude) : Nat × Nat := (x.mantissa * Nat.pow 2 x.exponent.toNat, Nat.pow 2 (-x.exponent).toNat)

/-- The rounded product. -/
def times (x y : Magnitude) : Option Magnitude :=
  nearest (x.ratio.1 * y.ratio.1) (x.ratio.2 * y.ratio.2)

/-- The rounded quotient. -/
def divided (x y : Magnitude) : Option Magnitude :=
  nearest (x.ratio.1 * y.ratio.2) (x.ratio.2 * y.ratio.1)

/-- The magnitude nearest to `coefficient · 10 ^ exponent`, correctly rounded. Beyond these powers of
ten nothing is finite, and nothing differs from zero. -/
def ofDecimal (coefficient : Nat) (exponent : Int) : Option Magnitude :=
  if coefficient = 0 then some zero
  else if 400 < exponent then none
  else if exponent + (coefficient.log2 + 1) < -400 then some zero
  else nearest (coefficient * Nat.pow 10 exponent.toNat) (Nat.pow 10 (-exponent).toNat)

end Magnitude

end ForgeBridge.Numeric
