import ForgeBridge.Toml.Strings

/-!
Dates and times of TOML, each brought into its usual form.
-/

namespace ForgeBridge.Toml

open Toml.Parser

/-- A number of at most this many decimal digits, filled up with zeros. -/
def padded (width n : Nat) : String :=
  let digits := toString n
  "".pushn '0' (width - digits.length) ++ digits

/-- Exactly so many digits, for a number in a range. -/
def digitsBetween (count low high : Nat) : Parser Nat :=
  (takeExactly count Char.isDigit).checked fun digits =>
    let n := numeral 10 digits
    if low ≤ n ∧ n ≤ high then .ok n else .error (some .outOfRange)

/-- The number of days of a month. -/
def daysOf (year month : Nat) : Nat :=
  if month = 2 then if year % 4 = 0 ∧ (year % 100 ≠ 0 ∨ year % 400 = 0) then 29 else 28
  else if month = 4 ∨ month = 6 ∨ month = 9 ∨ month = 11 then 30
  else 31

def date : Parser String := do
  let year ← digitsBetween 4 0 9999
  char '-'
  let month ← (digitsBetween 2 1 12).committed
  (char '-').committed
  let day ← committed <| (digitsBetween 2 1 31).checked fun day =>
    if day ≤ daysOf year month then .ok day else .error (some .outOfRange)
  return padded 4 year ++ "-" ++ padded 2 month ++ "-" ++ padded 2 day

/-- A part of a second: its first nine digits, without zeros at the end. -/
def secondPart : Parser String := do
  char '.'
  let digits ← takeWhile1 Char.isDigit
  match ((digits.take 9).reverse.dropWhile (· = '0')).reverse with
  | [] => return ""
  | digits => return "." ++ .ofList digits

def time : Parser String := do
  let hour ← digitsBetween 2 0 23
  char ':'
  committed do
    let minute ← digitsBetween 2 0 59
    char ':'
    let second ← digitsBetween 2 0 60
    let part ← optional secondPart
    return padded 2 hour ++ ":" ++ padded 2 minute ++ ":" ++ padded 2 second ++ part.getD ""

/-- How far a time is from universal time. -/
def offset : Parser String :=
  labelled "time offset" <|
    orElse ((fun _ => "Z") <$> satisfy fun c => c = 'Z' || c = 'z') do
      let mark ← satisfy fun c => c = '+' || c = '-'
      committed do
        let hours ← digitsBetween 2 0 23
        char ':'
        let minutes ← digitsBetween 2 0 59
        let shown := if hours = 0 ∧ minutes = 0 then "+" else mark.toString
        return shown ++ padded 2 hours ++ ":" ++ padded 2 minutes

/-- A date, a time, or both. -/
def dateTime : Parser String :=
  orElse
    (labelled "date-time" do
      let date ← date
      let more ← optional do
        discard (satisfy fun c => c = 'T' || c = 't' || c = ' ')
        let time ← time
        let offset ← optional offset
        return "T" ++ time ++ offset.getD ""
      return date ++ more.getD "")
    (labelled "time" time)

end ForgeBridge.Toml
