import ForgeBridge.Json.Failure

/-!
White space, words, strings and numbers of JSON, at the level of bytes. Strings may hold any bytes
until they are decoded; passing over a string checks only where it ends.
-/

namespace ForgeBridge.Json

open Ascii

/-- White space. -/
def isBlank (b : UInt8) : Bool := b = space || b = newline || b = tab || b = carriageReturn

/-- The text behind leading white space. -/
def skipBlank (bs : List UInt8) : List UInt8 := bs.dropWhile isBlank

theorem skipBlank_length (bs : List UInt8) : (skipBlank bs).length ≤ bs.length :=
  (List.dropWhile_sublist _).length_le

/-- Passes over the letters of a word. -/
def skipWord : List UInt8 → List UInt8 → Except Failure (List UInt8)
  | [], bs => .ok bs
  | _ :: _, [] => .error (.before [] .endInValue)
  | letter :: word, b :: bs =>
    if b = letter then skipWord word bs else .error (.before bs .badWord)

theorem skipWord_length {word bs rest : List UInt8} (h : skipWord word bs = .ok rest) :
    rest.length ≤ bs.length := by
  fun_induction skipWord word bs with
  | case1 => simp_all
  | case2 => simp at h
  | case3 _ _ _ ih =>
    have := ih h
    simp
    omega
  | case4 => simp at h

/-- Passes over the rest of `null`. -/
abbrev skipNull : List UInt8 → Except Failure (List UInt8) := skipWord [letterU, letterL, letterL]

/-- Passes over the rest of `true`. -/
abbrev skipTrue : List UInt8 → Except Failure (List UInt8) := skipWord [letterR, letterU, letterE]

/-- Passes over the rest of `false`. -/
abbrev skipFalse : List UInt8 → Except Failure (List UInt8) :=
  skipWord [letterA, letterL, letterS, letterE]

/-! ## Strings -/

/-- The byte that an escape letter stands for. -/
def escaped? : UInt8 → Option UInt8
  | quote => some quote
  | backslash => some backslash
  | slash => some slash
  | letterB => some 0x08
  | letterF => some 0x0C
  | letterN => some newline
  | letterR => some carriageReturn
  | letterT => some tab
  | _ => none

/-- Four hexadecimal digits. -/
def hex4 : List UInt8 → Except Failure (Nat × List UInt8)
  | a :: b :: c :: d :: rest =>
    match hexDigit? a, hexDigit? b, hexDigit? c, hexDigit? d with
    | some a, some b, some c, some d => .ok (((a * 16 + b) * 16 + c) * 16 + d, rest)
    | _, _, _, _ => .error (.before rest .badEscape)
  | _ => .error (.before [] .endInString)

theorem hex4_length {bs rest : List UInt8} {n : Nat} (h : hex4 bs = .ok (n, rest)) :
    rest.length ≤ bs.length := by
  unfold hex4 at h
  split at h
  · split at h
    · simp only [Except.ok.injEq, Prod.mk.injEq] at h
      obtain ⟨-, rfl⟩ := h
      simp
      omega
    · simp at h
  · simp at h

def isLeadingSurrogate (n : Nat) : Bool := 0xD800 ≤ n && n ≤ 0xDBFF
def isTrailingSurrogate (n : Nat) : Bool := 0xDC00 ≤ n && n ≤ 0xDFFF

/-- The bytes of the character with number `n`. -/
def utf8 (n : Nat) : List UInt8 := String.utf8EncodeChar (Char.ofNat n)

/-- The second half of a pair of surrogates whose first half was `high`. -/
def readTrailing (high : Nat) : List UInt8 → Except Failure (List UInt8 × List UInt8)
  | [] => .error (.before [] .endInString)
  | b :: bs =>
    if b ≠ backslash then .error (.before bs .halfSurrogatePair)
    else
      match bs with
      | [] => .error (.before [] .endInString)
      | b :: bs =>
        if b ≠ letterU then .error (.before bs .halfSurrogatePair)
        else
          match hex4 bs with
          | .error f => .error f
          | .ok (low, rest) =>
            if isTrailingSurrogate low then
              .ok (utf8 (0x10000 + (high - 0xD800) * 0x400 + (low - 0xDC00)), rest)
            else .error (.before rest .loneSurrogate)

/-- What follows the backslash of an escape: the bytes it stands for. -/
def readEscape : List UInt8 → Except Failure (List UInt8 × List UInt8)
  | [] => .error (.before [] .endInString)
  | e :: bs =>
    match escaped? e with
    | some b => .ok ([b], bs)
    | none =>
      if e ≠ letterU then .error (.before bs .badEscape)
      else
        match hex4 bs with
        | .error f => .error f
        | .ok (n, rest) =>
          if isTrailingSurrogate n then .error (.before rest .loneSurrogate)
          else if isLeadingSurrogate n then readTrailing n rest
          else .ok (utf8 n, rest)

theorem readTrailing_length {high : Nat} {bs s rest : List UInt8}
    (h : readTrailing high bs = .ok (s, rest)) : rest.length ≤ bs.length := by
  unfold readTrailing at h
  repeat' split at h
  all_goals simp only [reduceCtorEq, Except.ok.injEq, Prod.mk.injEq] at h
  have := hex4_length ‹hex4 _ = _›
  simp [← h.2]
  omega

theorem readEscape_length {bs s rest : List UInt8} (h : readEscape bs = .ok (s, rest)) :
    rest.length ≤ bs.length := by
  unfold readEscape at h
  split at h
  · simp at h
  · split at h
    · simp only [Except.ok.injEq, Prod.mk.injEq] at h
      simp [← h.2]
    · split at h
      · simp at h
      · split at h
        · simp at h
        · rename_i hx
          have := hex4_length hx
          split at h
          · simp at h
          · split at h
            · have := readTrailing_length h
              simp
              omega
            · simp only [Except.ok.injEq, Prod.mk.injEq] at h
              simp [← h.2]
              omega

/-- The bytes of a string whose opening quote is read; `read` holds those before, last first. -/
def readChars (read : List UInt8) (bs : List UInt8) : Except Failure (List UInt8 × List UInt8) :=
  match bs with
  | [] => .error (.before [] .endInString)
  | b :: bs =>
    if b = quote then .ok (read.reverse, bs)
    else if b = backslash then
      match h : readEscape bs with
      | .error f => .error f
      | .ok (s, rest) =>
        have := readEscape_length h
        readChars (s.reverse ++ read) rest
    else if b < space then .error (.before bs .controlCharacter)
    else readChars (b :: read) bs
termination_by bs.length

theorem readChars_length {read bs s rest : List UInt8} (h : readChars read bs = .ok (s, rest)) :
    rest.length < bs.length := by
  fun_induction readChars read bs with
  | case1 => simp at h
  | case2 read bs => simp at h; simp [h.2]
  | case3 => simp at h
  | case4 read bs _ s' rest' he hl ih =>
    have := ih h
    simp
    omega
  | case5 => simp at h
  | case6 _ _ _ _ _ _ ih =>
    have := ih h
    simp
    omega

/-- A string whose opening quote is read. Bytes that are no text fail in front of the closing quote. -/
def readStringTail (bs : List UInt8) : Except Failure (String × List UInt8) :=
  match readChars [] bs with
  | .error f => .error f
  | .ok (s, rest) =>
    match Text.ofBytes? s with
    | some text => .ok (text, rest)
    | none => .error (.before (quote :: rest) .badUnicode)

theorem readStringTail_length {bs rest : List UInt8} {s : String}
    (h : readStringTail bs = .ok (s, rest)) : rest.length < bs.length := by
  unfold readStringTail at h
  split at h
  · simp at h
  · rename_i hc
    split at h
    · simp only [Except.ok.injEq, Prod.mk.injEq] at h
      exact h.2 ▸ readChars_length hc
    · simp at h

/-- Passes over an escape behind its backslash; surrogates need no partner here. -/
def skipEscape : List UInt8 → Except Failure (List UInt8)
  | [] => .error (.before [] .endInString)
  | e :: bs =>
    if (escaped? e).isSome then .ok bs
    else if e = letterU then
      match hex4 bs with
      | .error f => .error f
      | .ok (_, rest) => .ok rest
    else .error (.before bs .badEscape)

theorem skipEscape_length {bs rest : List UInt8} (h : skipEscape bs = .ok rest) :
    rest.length ≤ bs.length := by
  unfold skipEscape at h
  split at h
  · simp at h
  · split at h
    · simp at h; simp [← h]
    · split at h
      · split at h
        · simp at h
        · rename_i hx
          have := hex4_length hx
          simp at h
          simp [← h]
          omega
      · simp at h

/-- Passes over a string whose opening quote is read. -/
def skipString (bs : List UInt8) : Except Failure (List UInt8) :=
  match bs with
  | [] => .error (.before [] .endInString)
  | b :: bs =>
    if b = quote then .ok bs
    else if b = backslash then
      match h : skipEscape bs with
      | .error f => .error f
      | .ok rest =>
        have := skipEscape_length h
        skipString rest
    else if b < space then .error (.before (b :: bs) .controlCharacter)
    else skipString bs
termination_by bs.length

theorem skipString_length {bs rest : List UInt8} (h : skipString bs = .ok rest) :
    rest.length < bs.length := by
  fun_induction skipString bs with
  | case1 => simp at h
  | case2 => simp at h; simp [h]
  | case3 => simp at h
  | case4 bs _ rest' he hl ih =>
    have := ih h
    simp
    omega
  | case5 => simp at h
  | case6 _ _ _ _ _ ih =>
    have := ih h
    simp
    omega

/-! ## Numbers -/

/-- A number as it is kept: whole while it fits into 64 bits, else to the nearest the floating-point
arithmetic below finds. -/
inductive Number where
  | natural (n : Nat)
  | negative (n : Nat)
  | real (isNegative : Bool) (magnitude : Numeric.Magnitude)
deriving DecidableEq

/-- Takes in digits while the number stays within 64 bits; gives the number and how many were
taken. -/
def absorb (n : Nat) : List UInt8 → Nat × Nat
  | [] => (n, 0)
  | d :: ds =>
    if n * 10 + digit d < UInt64.size then
      let (m, taken) := absorb (n * 10 + digit d) ds
      (m, taken + 1)
    else (n, 0)

/-- A power of ten in floating point. -/
def powerOfTen (k : Nat) : Numeric.Magnitude :=
  (Numeric.Magnitude.nearest (Nat.pow 10 k) 1).getD .zero

/-- The places of the largest power of ten in floating point. -/
def maxPlaces : Nat := 308

/-- Divided by the largest power of ten a number of times, until nothing is left. -/
def overLargest : Nat → Numeric.Magnitude → Option Numeric.Magnitude
  | 0, m => some m
  | n + 1, m =>
    if m.mantissa = 0 then some .zero else (m.divided (powerOfTen maxPlaces)).bind (overLargest n)

/-- `significand · 10 ^ exponent` in floating point: the significand is rounded, then multiplied or
divided by a rounded power of ten, in steps of `maxPlaces` at most. None beyond the largest
value. -/
def approximate (significand : Numeric.Magnitude) (exponent : Int) : Option Numeric.Magnitude :=
  if 0 ≤ exponent then
    if exponent.natAbs ≤ maxPlaces then significand.times (powerOfTen exponent.natAbs)
    else if significand.mantissa = 0 then some .zero
    else none
  else
    let steps := (exponent.natAbs - 1) / maxPlaces
    (overLargest steps significand).bind
      (·.divided (powerOfTen (exponent.natAbs - steps * maxPlaces)))

/-- The number of a significand and an exponent, in front of `rest`. -/
def realNumber (isNegative : Bool) (significand : Nat) (exponent : Int) (rest : List UInt8) :
    Except Failure (Number × List UInt8) :=
  match (Numeric.Magnitude.nearest significand 1).bind (approximate · exponent) with
  | some m => .ok (.real isNegative m, rest)
  | none => .error (.before rest .numberTooLarge)

/-- The digits of an exponent, or what follows the digit that takes it beyond 31 bits. -/
def readExponentDigits (n : Nat) : List UInt8 → Except (List UInt8) (Nat × List UInt8)
  | [] => .ok (n, [])
  | b :: bs =>
    if isDigit b then
      if n * 10 + digit b < Nat.pow 2 31 then readExponentDigits (n * 10 + digit b) bs else .error bs
    else .ok (n, b :: bs)

/-- The sign of an exponent. -/
def readSign : List UInt8 → Bool × List UInt8
  | plus :: bs => (false, bs)
  | minus :: bs => (true, bs)
  | bs => (false, bs)

/-- An exponent behind its letter. -/
def readExponent (isNegative : Bool) (significand : Nat) (exponent : Int) (bs : List UInt8) :
    Except Failure (Number × List UInt8) :=
  let (down, bs) := readSign bs
  match bs with
  | [] => .error (.before [] .endInValue)
  | b :: rest =>
    if isDigit b then
      match readExponentDigits 0 bs with
      | .ok (n, rest) =>
        realNumber isNegative significand (if down then exponent - n else exponent + n) rest
      | .error rest =>
        if significand ≠ 0 ∧ ¬down then .error (.before rest .numberTooLarge)
        else .ok (.real isNegative .zero, rest.dropWhile isDigit)
    else .error (.before rest .badNumber)

/-- What may follow the whole part of a number. -/
inductive NumberTail where
  | fraction (bs : List UInt8)
  | exponent (bs : List UInt8)
  | none (bs : List UInt8)

def numberTail : List UInt8 → NumberTail
  | [] => .none []
  | b :: bs =>
    if b = dot then .fraction bs
    else if b = letterE ∨ b = capitalE then .exponent bs
    else .none (b :: bs)

/-- The fraction of a number behind its point. -/
def readFraction (isNegative : Bool) (significand : Nat) (exponent : Int) (bs : List UInt8) :
    Except Failure (Number × List UInt8) :=
  let digits := bs.takeWhile isDigit
  let rest := bs.dropWhile isDigit
  if digits.isEmpty then
    .error (if rest.isEmpty then .before [] .endInValue else .here rest .badNumber)
  else
    let (n, taken) := absorb significand digits
    match numberTail rest with
    | .exponent more => readExponent isNegative n (exponent - taken) more
    | _ => realNumber isNegative n (exponent - taken) rest

/-- A whole number that nothing follows. -/
def wholeNumber (isNegative : Bool) (n : Nat) (rest : List UInt8) :
    Except Failure (Number × List UInt8) :=
  if ¬isNegative then .ok (.natural n, rest)
  else if 0 < n ∧ n ≤ Nat.pow 2 63 then .ok (.negative n, rest)
  else realNumber true n 0 rest

/-- A number behind its sign. -/
def readNumber (isNegative : Bool) (bs : List UInt8) : Except Failure (Number × List UInt8) :=
  match bs with
  | [] => .error (.before [] .endInValue)
  | b :: bs =>
    if b = zero then
      if bs.head?.any isDigit then .error (.here bs .badNumber)
      else
        match numberTail bs with
        | .fraction more => readFraction isNegative 0 0 more
        | .exponent more => readExponent isNegative 0 0 more
        | .none rest => wholeNumber isNegative 0 rest
    else if isDigit b then
      let digits := b :: bs.takeWhile isDigit
      let (n, taken) := absorb 0 digits
      let dropped := digits.length - taken
      match numberTail (bs.dropWhile isDigit) with
      | .fraction more => readFraction isNegative n dropped more
      | .exponent more => readExponent isNegative n dropped more
      | .none rest =>
        if dropped = 0 then wholeNumber isNegative n rest else realNumber isNegative n dropped rest
    else .error (.before bs .badNumber)

/-- Passes over the exponent of a number behind its letter. -/
def skipExponent (bs : List UInt8) : Except Failure (List UInt8) :=
  match (readSign bs).2 with
  | [] => .error (.before [] .badNumber)
  | b :: rest =>
    if isDigit b then .ok (rest.dropWhile isDigit) else .error (.before rest .badNumber)

/-- Passes over what may follow the whole part of a number. -/
def skipNumberTail (bs : List UInt8) : Except Failure (List UInt8) :=
  match numberTail bs with
  | .none rest => .ok rest
  | .exponent more => skipExponent more
  | .fraction more =>
    if more.head?.any isDigit then
      match numberTail (more.dropWhile isDigit) with
      | .exponent more => skipExponent more
      | _ => .ok (more.dropWhile isDigit)
    else .error (.here more .badNumber)

/-- Passes over a number behind its sign. -/
def skipNumber : List UInt8 → Except Failure (List UInt8)
  | [] => .error (.before [] .badNumber)
  | b :: bs =>
    if b = zero then
      if bs.head?.any isDigit then .error (.here bs .badNumber) else skipNumberTail bs
    else if isDigit b then skipNumberTail (bs.dropWhile isDigit)
    else .error (.before bs .badNumber)

/-! ### What numbers leave unread -/

theorem dropWhile_length (p : UInt8 → Bool) (bs : List UInt8) :
    (bs.dropWhile p).length ≤ bs.length :=
  (List.dropWhile_sublist p).length_le

theorem readSign_length (bs : List UInt8) : (readSign bs).2.length ≤ bs.length := by
  unfold readSign; split <;> simp

theorem numberTail_fraction {bs more : List UInt8} (h : numberTail bs = .fraction more) :
    more.length < bs.length := by
  unfold numberTail at h; repeat' split at h
  all_goals simp_all

theorem numberTail_exponent {bs more : List UInt8} (h : numberTail bs = .exponent more) :
    more.length < bs.length := by
  unfold numberTail at h; repeat' split at h
  all_goals simp_all

theorem numberTail_none {bs rest : List UInt8} (h : numberTail bs = .none rest) : rest = bs := by
  unfold numberTail at h; repeat' split at h
  all_goals simp_all

theorem realNumber_rest {isNegative : Bool} {significand : Nat} {exponent : Int}
    {bs rest : List UInt8} {x : Number}
    (h : realNumber isNegative significand exponent bs = .ok (x, rest)) : rest = bs := by
  unfold realNumber at h; split at h <;> simp_all

theorem readExponentDigits_length {n k : Nat} {bs rest : List UInt8}
    (h : readExponentDigits n bs = .ok (k, rest)) : rest.length ≤ bs.length := by
  fun_induction readExponentDigits n bs with
  | case1 => simp_all
  | case2 n b bs _ _ ih =>
    have := ih h
    simp
    omega
  | case3 => simp at h
  | case4 => simp_all

theorem readExponentDigits_error {n : Nat} {bs rest : List UInt8}
    (h : readExponentDigits n bs = .error rest) : rest.length ≤ bs.length := by
  fun_induction readExponentDigits n bs with
  | case1 => simp_all
  | case2 n b bs _ _ ih =>
    have := ih h
    simp
    omega
  | case3 n b bs => simp at h; simp [← h]
  | case4 => simp_all

theorem readExponent_length {isNegative : Bool} {significand : Nat} {exponent : Int}
    {bs rest : List UInt8} {x : Number}
    (h : readExponent isNegative significand exponent bs = .ok (x, rest)) :
    rest.length ≤ bs.length := by
  have hs := readSign_length bs
  unfold readExponent at h
  simp only at h
  split at h
  · simp at h
  · rename_i b more hb
    split at h
    · split at h
      · have := realNumber_rest h
        have := readExponentDigits_length ‹readExponentDigits 0 _ = .ok _›
        simp_all
        omega
      · rename_i rest' _
        have := readExponentDigits_error ‹readExponentDigits 0 _ = .error _›
        have := dropWhile_length isDigit rest'
        split at h
        · simp at h
        · simp only [Except.ok.injEq, Prod.mk.injEq] at h
          simp_all
          omega
    · simp at h

theorem readFraction_length {isNegative : Bool} {significand : Nat} {exponent : Int}
    {bs rest : List UInt8} {x : Number}
    (h : readFraction isNegative significand exponent bs = .ok (x, rest)) :
    rest.length ≤ bs.length := by
  have hd := dropWhile_length isDigit bs
  unfold readFraction at h
  simp only at h
  split at h
  · simp at h
  · split at h
    · have := numberTail_exponent ‹_›
      have := readExponent_length h
      omega
    · have := realNumber_rest h
      simp_all

theorem wholeNumber_rest {isNegative : Bool} {n : Nat} {bs rest : List UInt8} {x : Number}
    (h : wholeNumber isNegative n bs = .ok (x, rest)) : rest = bs := by
  unfold wholeNumber at h
  split at h
  · simp_all
  · split at h
    · simp_all
    · exact realNumber_rest h

theorem readNumber_length {isNegative : Bool} {bs rest : List UInt8} {x : Number}
    (h : readNumber isNegative bs = .ok (x, rest)) : rest.length < bs.length := by
  unfold readNumber at h
  split at h
  · simp at h
  · rename_i b more
    have hd := dropWhile_length isDigit more
    split at h
    · split at h
      · simp at h
      · split at h
        · have := numberTail_fraction ‹_›
          have := readFraction_length h
          simp
          omega
        · have := numberTail_exponent ‹_›
          have := readExponent_length h
          simp
          omega
        · have htail := numberTail_none ‹_›
          rw [wholeNumber_rest h, htail]
          exact Nat.lt_succ_self _
    · split at h
      · simp only at h
        split at h
        · have := numberTail_fraction ‹_›
          have := readFraction_length h
          simp
          omega
        · have := numberTail_exponent ‹_›
          have := readExponent_length h
          simp
          omega
        · have htail := numberTail_none ‹_›
          split at h
          · rw [wholeNumber_rest h, htail]
            exact Nat.lt_succ_of_le hd
          · rw [realNumber_rest h, htail]
            exact Nat.lt_succ_of_le hd
      · simp at h

theorem skipExponent_length {bs rest : List UInt8} (h : skipExponent bs = .ok rest) :
    rest.length ≤ bs.length := by
  have hs := readSign_length bs
  unfold skipExponent at h
  split at h
  · simp at h
  · rename_i b more _
    have := dropWhile_length isDigit more
    split at h
    · simp_all
      omega
    · simp at h

theorem skipNumberTail_length {bs rest : List UInt8} (h : skipNumberTail bs = .ok rest) :
    rest.length ≤ bs.length := by
  unfold skipNumberTail at h
  split at h
  · have := numberTail_none ‹_›
    simp_all
  · have := numberTail_exponent ‹_›
    have := skipExponent_length h
    omega
  · rename_i more _
    have := numberTail_fraction ‹_›
    have := dropWhile_length isDigit more
    split at h
    · split at h
      · have := numberTail_exponent ‹_›
        have := skipExponent_length h
        omega
      · simp only [Except.ok.injEq] at h
        simp [← h]
        omega
    · simp at h

theorem skipNumber_length {bs rest : List UInt8} (h : skipNumber bs = .ok rest) :
    rest.length < bs.length := by
  unfold skipNumber at h
  split at h
  · simp at h
  · rename_i b more
    have := dropWhile_length isDigit more
    split at h
    · split at h
      · simp at h
      · have := skipNumberTail_length h
        simp
        omega
    · split at h
      · have := skipNumberTail_length h
        simp
        omega
      · simp at h

end ForgeBridge.Json
