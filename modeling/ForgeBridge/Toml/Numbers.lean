import ForgeBridge.Numeric.Binary64
import ForgeBridge.Toml.Strings

/-!
Numbers of TOML: whole numbers of 64 bits in four bases, and floating-point numbers, correctly
rounded. Digits may be grouped by underscores, each between two digits.
-/

namespace ForgeBridge.Toml

open Toml.Parser

/-- A digit was wanted. -/
def aDigit : List Wanted := [.description "digit"]

/-- The digits that go on a number. -/
def moreDigits (isDigit : Char → Bool) : Parser (List Char) :=
  many (orElse (satisfy isDigit) (char '_' *> ((satisfy isDigit).committed.wanting aDigit)))

/-- Digits in groups. -/
def digits (isDigit : Char → Bool) : Parser (List Char) := do
  let first ← satisfy isDigit
  let others ← moreDigits isDigit
  return first :: others

/-- A sign; true is minus. -/
def sign : Parser (Option Bool) :=
  optional (orElse ((fun _ => false) <$> char '+') ((fun _ => true) <$> char '-'))

/-- A sign and decimal digits without a leading zero. -/
def decimal : Parser (Bool × List Char) :=
  labelled "integer" do
    let negative ← sign
    let digits ← orElse
      (do
        let first ← satisfy fun c => '1' ≤ c && c ≤ '9'
        let others ← moreDigits Char.isDigit
        return first :: others)
      ((fun c => [c]) <$> satisfy Char.isDigit)
    return (negative.getD false, digits)

/-- A whole number of 64 bits with a sign. -/
def int64 (negative : Bool) (magnitude : Nat) : Except (Option Cause) Int :=
  if negative then
    if magnitude ≤ Nat.pow 2 63 then .ok (-magnitude) else .error (some .tooSmall)
  else if magnitude < Nat.pow 2 63 then .ok magnitude
  else .error (some .tooLarge)

def decimalInteger : Parser Int :=
  decimal.settled fun (negative, digits) => int64 negative (numeral 10 digits)

/-- Digits of another base behind the mark for it. -/
def basedInteger (label mark : String) (base : Nat) (isDigit : Char → Bool) : Parser Int :=
  (labelled label (word mark.toList *> (digits isDigit).committed)).checked
    fun digits => int64 false (numeral base digits)

def integer : Parser Int := do
  match (← here).take 2 with
  | ['0', 'x'] => (basedInteger "hexadecimal integer" "0x" 16 isHexDigit).committed
  | ['0', 'o'] =>
    (basedInteger "octal integer" "0o" 8 fun c => '0' ≤ c && c ≤ '7').committed
  | ['0', 'b'] => (basedInteger "binary integer" "0b" 2 fun c => c = '0' || c = '1').committed
  | _ => decimalInteger

/-! ## Floating point -/

/-- A fraction behind the whole part: its digits. -/
def fraction : Parser (List Char) :=
  char '.' *> ((digits Char.isDigit).committed.wanting aDigit)

/-- An exponent. -/
def exponent : Parser Int := do
  discard (satisfy fun c => c = 'e' || c = 'E')
  let negative ← sign
  let digits ← (digits Char.isDigit).committed
  return if negative.getD false then -(numeral 10 digits) else numeral 10 digits

/-- A number with a fraction or an exponent or both: its sign, all its digits and the power of ten
they are multiplied by. -/
def realParts : Parser (Bool × Nat × Int) := do
  let (negative, whole) ← decimal
  orElse
    (do
      let e ← exponent
      return (negative, numeral 10 whole, e))
    (do
      let part ← fraction
      let e ← optional exponent
      return (negative, numeral 10 (whole ++ part), e.getD 0 - part.length))

/-- The nearest value; a positive number beyond all finite ones is refused. -/
def realValue : Bool × Nat × Int → Except (Option Cause) Numeric.Binary64
  | (negative, coefficient, exponent) =>
    match Numeric.Magnitude.ofDecimal coefficient exponent with
    | some m => .ok (.finite negative m)
    | none => if negative then .ok (.infinite true) else .error none

/-- Infinity, or what is not a number. -/
def special : Parser Numeric.Binary64 := do
  let negative ← sign
  orElse ((fun _ => .infinite (negative.getD false)) <$> word ['i', 'n', 'f'])
    ((fun _ => .notANumber) <$> word ['n', 'a', 'n'])

def float : Parser Numeric.Binary64 :=
  labelled "floating-point number" (orElse (realParts.settled realValue) special)

end ForgeBridge.Toml
