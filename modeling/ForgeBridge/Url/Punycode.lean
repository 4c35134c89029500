import ForgeBridge.Text.Pieces

/-!
Punycode: labels of domain names in ASCII alone. The ASCII characters stand in front; behind the
last hyphen, numbers in base 36 tell where the other characters go, in the order of their code
points.
-/

namespace ForgeBridge.Url.Punycode

/-- The digit of a number below 36. -/
def digit (n : Nat) : Char := if n < 26 then .ofNat (0x61 + n) else .ofNat (0x16 + n)

/-- The value of a digit of either case. -/
def value? (c : Char) : Option Nat :=
  if 'a' ≤ c ∧ c ≤ 'z' then some (c.toNat - 0x61)
  else if 'A' ≤ c ∧ c ≤ 'Z' then some (c.toNat - 0x41)
  else if c.isDigit then some (c.toNat - 0x16)
  else none

/-- Digits below the threshold end a number. -/
def threshold (k bias : Nat) : Nat := max 1 (min 26 (k - bias))

theorem threshold_pos (k bias : Nat) : 0 < threshold k bias := by unfold threshold; omega

/-- Divides by 35 until few are left, and counts. -/
def shrink (delta k : Nat) : Nat × Nat :=
  if h : 455 < delta then shrink (delta / 35) (k + 36) else (delta, k)
termination_by delta
decreasing_by omega

/-- The bias after a number, for `count` characters placed. -/
def adapt (delta count : Nat) (isFirst : Bool) : Nat :=
  let delta := if isFirst then delta / 700 else delta / 2
  let (delta, k) := shrink (delta + delta / count) 0
  k + 36 * delta / (delta + 38)

/-! ## Encoding -/

/-- The digits of a number. -/
def digits (bias k q : Nat) : List Char :=
  let t := threshold k bias
  if h : q < t then [digit q]
  else digit (t + (q - t) % (36 - t)) :: digits bias (k + 36) ((q - t) / (36 - t))
termination_by q
decreasing_by
  have := threshold_pos k bias
  have : (q - threshold k bias) / (36 - threshold k bias) ≤ q - threshold k bias :=
    Nat.div_le_self ..
  omega

/-- What the encoder knows: the distance to the next place, the bias, how many characters are
placed, and the digits written, last first. -/
structure Encoder where
  delta : Nat
  bias : Nat
  placed : Nat
  isFirst : Bool
  written : List (List Char)

/-- Passes one character of the label while the characters of code point `n` are placed. -/
def Encoder.pass (n : Nat) (e : Encoder) (c : Char) : Encoder :=
  if c.toNat < n then { e with delta := e.delta + 1 }
  else if c.toNat = n then
    { delta := 0
      bias := adapt e.delta (e.placed + 1) e.isFirst
      placed := e.placed + 1
      isFirst := false
      written := digits e.bias 36 e.delta :: e.written }
  else e

/-- Places the characters of the given code points, which come in increasing order. -/
def place (label : List Char) : (points : List Nat) → (from_ : Nat) → Encoder → Encoder
  | [], _, e => e
  | n :: points, from_, e =>
    let e := { e with delta := e.delta + (n - from_) * (e.placed + 1) }
    let e := label.foldl (Encoder.pass n) e
    place label points (n + 1) { e with delta := e.delta + 1 }

/-- The code points of a label beyond ASCII, each once, in increasing order. -/
def points (label : List Char) : List Nat :=
  ((label.map Char.toNat).filter (128 ≤ ·)).mergeSort.eraseDups

/-- The encoded form of a label. -/
def encode (label : List Char) : List Char :=
  let basic := label.filter (·.toNat < 128)
  let e := place label (points label) 128 ⟨0, 72, basic.length, true, []⟩
  basic ++ (if basic.isEmpty then [] else ['-']) ++ e.written.reverse.flatten

/-! ## Decoding -/

/-- What the decoder knows: the label so far, the code point and the place of the last character, the
bias, and the number that is being read with its weight and the place of the digit. -/
structure Decoder where
  label : List Char
  point : Nat
  index : Nat
  bias : Nat
  number : Nat
  weight : Nat
  k : Nat

/-- Takes in one digit. -/
def Decoder.step (d : Decoder) (c : Char) : Option Decoder := do
  let v ← value? c
  let number := d.number + v * d.weight
  let t := threshold d.k d.bias
  if t ≤ v then return { d with number := number, weight := d.weight * (36 - t), k := d.k + 36 }
  else
    let count := d.label.length + 1
    let index := d.index + number
    let point := d.point + index / count
    if ¬point.isValidChar then none
    let at_ := index % count
    return {
      label := d.label.take at_ ++ .ofNat point :: d.label.drop at_
      point := point
      index := at_ + 1
      bias := adapt number count (d.index = 0)
      number := 0
      weight := 1
      k := 36 }

/-- The parts before and behind the last hyphen. A hyphen in front is no such mark. -/
def halves (cs : List Char) : List Char × List Char :=
  let behind := (cs.reverse.takeWhile (· ≠ '-')).reverse
  match cs.take (cs.length - behind.length - 1) with
  | [] => ([], cs)
  | basic => (basic, behind)

/-- The label of an encoded form. -/
def decode (cs : List Char) : Option (List Char) := do
  let (basic, behind) := halves cs
  if ¬basic.all (·.toNat < 128) then none
  let d ← behind.foldlM Decoder.step ⟨basic, 128, 0, 72, 0, 1, 36⟩
  if d.k ≠ 36 then none
  return d.label

end ForgeBridge.Url.Punycode
