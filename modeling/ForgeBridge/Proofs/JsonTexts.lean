import ForgeBridge.Json.Skip

/-!
# JSON texts

What a JSON text is, apart from how it is read: blanks (`Blank`), strings with their escapes (`Spells`), numbers,
and brackets around items with commas between them (`Enclosed`). Values are nested to any depth (`IsJson`).
-/

namespace ForgeBridge.Json

open Ascii

/-! ## Blanks -/

/-- White space, or nothing. -/
def Blank (w : List UInt8) : Prop := ∀ b ∈ w, isBlank b = true

instance (w : List UInt8) : Decidable (Blank w) := inferInstanceAs (Decidable (∀ b ∈ w, isBlank b = true))

theorem blank_nil : Blank [] := List.forall_mem_nil _

/-- A text in which no number goes on. -/
def Stops (rest : List UInt8) : Prop :=
  ∀ b ∈ rest.head?, isDigit b = false ∧ b ≠ dot ∧ b ≠ letterE ∧ b ≠ capitalE

theorem stops_nil : Stops [] := by
  rintro b ⟨⟩

theorem stops_cons {b : UInt8} (h : isDigit b = false ∧ b ≠ dot ∧ b ≠ letterE ∧ b ≠ capitalE) (bs : List UInt8) :
    Stops (b :: bs) := by
  rintro c ⟨⟩
  exact h

theorem Blank.stops {w : List UInt8} (hw : Blank w) {rest : List UInt8} (h : Stops rest) : Stops (w ++ rest) := by
  cases w with
  | nil => exact h
  | cons b w =>
    have hb := hw b (.head _)
    simp only [isBlank, Bool.or_eq_true, decide_eq_true_eq] at hb
    refine stops_cons ?_ _
    rcases hb with ((rfl | rfl) | rfl) | rfl <;> decide

theorem Blank.ends {w : List UInt8} (hw : Blank w) : Stops w := by
  have hstops := hw.stops stops_nil
  rwa [List.append_nil] at hstops

/-! ## Strings -/

/-- Four hexadecimal digits of a number. -/
def IsHex4 (ds : List UInt8) (n : Nat) : Prop :=
  ∃ a b c d a' b' c' d', ds = [a, b, c, d] ∧ hexDigit? a = some a' ∧ hexDigit? b = some b' ∧
    hexDigit? c = some c' ∧ hexDigit? d = some d' ∧ n = ((a' * 16 + b') * 16 + c') * 16 + d'

/-- The bytes `s`, written between quotes as `t`: byte by byte as they are, or as escapes of one letter, or as
characters by their numbers, where large ones are split into two halves. -/
inductive Spells : (s t : List UInt8) → Prop
  | nil : Spells [] []
  | plain {b : UInt8} {s t : List UInt8} (hlow : space ≤ b) (hquote : b ≠ quote) (hback : b ≠ backslash)
      (h : Spells s t) : Spells (b :: s) (b :: t)
  | short {e b : UInt8} {s t : List UInt8} (he : escaped? e = some b) (h : Spells s t) :
      Spells (b :: s) (backslash :: e :: t)
  | unicode {ds s t : List UInt8} {n : Nat} (hds : IsHex4 ds n) (hlead : isLeadingSurrogate n = false)
      (htrail : isTrailingSurrogate n = false) (h : Spells s t) :
      Spells (utf8 n ++ s) (backslash :: letterU :: (ds ++ t))
  | pair {ds ds' s t : List UInt8} {high low : Nat} (hds : IsHex4 ds high) (hds' : IsHex4 ds' low)
      (hlead : isLeadingSurrogate high = true) (htrail : isTrailingSurrogate low = true) (h : Spells s t) :
      Spells (utf8 (0x10000 + (high - 0xD800) * 0x400 + (low - 0xDC00)) ++ s)
        (backslash :: letterU :: (ds ++ backslash :: letterU :: (ds' ++ t)))

/-- A string literal of a text. -/
def IsText (s : String) (t : List UInt8) : Prop :=
  ∃ body, Spells (Text.bytes s) body ∧ t = quote :: (body ++ [quote])

/-- What may stand between quotes. Halves of characters may stand alone. -/
inductive IsChars : List UInt8 → Prop
  | nil : IsChars []
  | plain {b : UInt8} {t : List UInt8} (hlow : space ≤ b) (hquote : b ≠ quote) (hback : b ≠ backslash)
      (h : IsChars t) : IsChars (b :: t)
  | short {e : UInt8} {t : List UInt8} (he : (escaped? e).isSome = true) (h : IsChars t) :
      IsChars (backslash :: e :: t)
  | unicode {ds t : List UInt8} {n : Nat} (hds : IsHex4 ds n) (h : IsChars t) :
      IsChars (backslash :: letterU :: (ds ++ t))

/-! ## Numbers and words -/

/-- One digit or more. -/
def IsDigits (ds : List UInt8) : Prop := ds ≠ [] ∧ ∀ d ∈ ds, isDigit d = true

/-- The digits of a whole number, with no zero in front of others. -/
def IsWhole (ds : List UInt8) : Prop := IsDigits ds ∧ (ds.head? = some zero → ds = [zero])

instance (ds : List UInt8) : Decidable (IsDigits ds) :=
  inferInstanceAs (Decidable (ds ≠ [] ∧ ∀ d ∈ ds, isDigit d = true))

instance (ds : List UInt8) : Decidable (IsWhole ds) :=
  inferInstanceAs (Decidable (IsDigits ds ∧ (ds.head? = some zero → ds = [zero])))

inductive IsFraction : List UInt8 → Prop
  | absent : IsFraction []
  | digits {ds : List UInt8} (h : IsDigits ds) : IsFraction (dot :: ds)

inductive IsExponent : List UInt8 → Prop
  | absent : IsExponent []
  | digits {e : UInt8} {sign ds : List UInt8} (he : e = letterE ∨ e = capitalE)
      (hsign : sign = [] ∨ sign = [plus] ∨ sign = [minus]) (h : IsDigits ds) : IsExponent (e :: (sign ++ ds))

/-- The text of a number. -/
inductive IsNumber : List UInt8 → Prop
  | positive {ds fraction exponent : List UInt8} (hds : IsWhole ds) (hf : IsFraction fraction)
      (he : IsExponent exponent) : IsNumber (ds ++ (fraction ++ exponent))
  | negative {ds fraction exponent : List UInt8} (hds : IsWhole ds) (hf : IsFraction fraction)
      (he : IsExponent exponent) : IsNumber (minus :: (ds ++ (fraction ++ exponent)))

/-- The text of a whole number. -/
def IsNatural (n : Nat) (t : List UInt8) : Prop := IsWhole t ∧ Ascii.number t = n

instance (n : Nat) (t : List UInt8) : Decidable (IsNatural n t) :=
  inferInstanceAs (Decidable (IsWhole t ∧ Ascii.number t = n))

/-- The text of null. -/
def nullText : List UInt8 := [letterN, letterU, letterL, letterL]

/-- A value without brackets. -/
inductive IsScalar : List UInt8 → Prop
  | null : IsScalar nullText
  | true : IsScalar [letterT, letterR, letterU, letterE]
  | false : IsScalar [letterF, letterA, letterL, letterS, letterE]
  | number {t : List UInt8} (h : IsNumber t) : IsScalar t
  | chars {t : List UInt8} (h : IsChars t) : IsScalar (quote :: (t ++ [quote]))

/-! ## Brackets -/

def Frame.opening : Frame → UInt8
  | .list => openBracket
  | .object => openBrace

/-- What stands in a bracket behind an item: other items, each behind a comma, and the end of the bracket. -/
inductive Follows (f : Frame) : List (List UInt8) → List UInt8 → Prop
  | close {w : List UInt8} (hw : Blank w) : Follows f [] (w ++ [f.close])
  | item {w w' i t : List UInt8} {items : List (List UInt8)} (hw : Blank w) (hw' : Blank w')
      (h : Follows f items t) : Follows f (i :: items) (w ++ comma :: (w' ++ (i ++ t)))

/-- Items in a bracket, with commas between them and white space anywhere. -/
inductive Enclosed (f : Frame) : List (List UInt8) → List UInt8 → Prop
  | empty {w : List UInt8} (hw : Blank w) : Enclosed f [] (f.opening :: (w ++ [f.close]))
  | items {w i t : List UInt8} {items : List (List UInt8)} (hw : Blank w) (h : Follows f items t) :
      Enclosed f (i :: items) (f.opening :: (w ++ (i ++ t)))

/-- What stands in front of a value in a bracket: a key and a colon in an object, and nothing in a list. -/
inductive IsLead : Frame → List UInt8 → Prop
  | list : IsLead .list []
  | object {key w w' : List UInt8} (hkey : IsChars key) (hw : Blank w) (hw' : Blank w') :
      IsLead .object (quote :: (key ++ quote :: (w ++ colon :: w')))

/-- The text of any value. -/
inductive IsJson : List UInt8 → Prop
  | scalar {t : List UInt8} (h : IsScalar t) : IsJson t
  | bracket (f : Frame) (items : List (List UInt8 × List UInt8)) {t : List UInt8}
      (hlead : ∀ i ∈ items, IsLead f i.1) (hvalue : ∀ i ∈ items, IsJson i.2)
      (h : Enclosed f (items.map fun i => i.1 ++ i.2) t) : IsJson t

/-! ## How texts start -/

/-- A text starts with something, and not with the end of a bracket. -/
def Starts (t : List UInt8) : Prop :=
  ∃ b bs, t = b :: bs ∧ isBlank b = false ∧ b ≠ closeBracket ∧ b ≠ closeBrace

theorem starts_cons {b : UInt8} (h : isBlank b = false ∧ b ≠ closeBracket ∧ b ≠ closeBrace) (bs : List UInt8) :
    Starts (b :: bs) := ⟨b, bs, rfl, h⟩

theorem Starts.ne_close {b : UInt8} {bs : List UInt8} (h : Starts (b :: bs)) (f : Frame) : b ≠ f.close := by
  obtain ⟨c, cs, heq, -, hbracket, hbrace⟩ := h
  cases heq
  cases f
  · exact hbracket
  · exact hbrace

theorem ne_of_isDigit {b c : UInt8} (h : isDigit b = true) (hc : isDigit c = false) : b ≠ c := by
  rintro rfl
  cases h.symm.trans hc

theorem starts_of_isDigit {b : UInt8} (h : isDigit b = true) (bs : List UInt8) : Starts (b :: bs) := by
  refine starts_cons ⟨?_, ne_of_isDigit h (by decide), ne_of_isDigit h (by decide)⟩ bs
  simp only [isBlank, Bool.or_eq_false_iff, decide_eq_false_iff_not]
  exact ⟨⟨⟨ne_of_isDigit h (by decide), ne_of_isDigit h (by decide)⟩, ne_of_isDigit h (by decide)⟩,
    ne_of_isDigit h (by decide)⟩

theorem IsDigits.exists_cons {ds : List UInt8} (h : IsDigits ds) :
    ∃ d ds', ds = d :: ds' ∧ isDigit d = true ∧ ∀ b ∈ ds', isDigit b = true := by
  obtain ⟨d, ds', rfl⟩ := List.exists_cons_of_ne_nil h.1
  exact ⟨d, ds', rfl, List.forall_mem_cons.1 h.2⟩

theorem IsWhole.starts {ds : List UInt8} (h : IsWhole ds) (t : List UInt8) : Starts (ds ++ t) := by
  obtain ⟨d, ds', rfl, hd, -⟩ := h.1.exists_cons
  exact starts_of_isDigit hd _

theorem IsScalar.starts {t : List UInt8} (h : IsScalar t) : Starts t := by
  cases h with
  | null | true | false => exact starts_cons (by decide) _
  | chars => exact starts_cons (by decide) _
  | number h =>
    cases h with
    | positive hds => exact hds.starts _
    | negative => exact starts_cons (by decide) _

theorem Enclosed.starts {f : Frame} {items : List (List UInt8)} {t : List UInt8} (h : Enclosed f items t) :
    Starts t := by
  have hopening : ∀ bs, Starts (f.opening :: bs) := by
    cases f <;> exact starts_cons (by decide)
  cases h <;> exact hopening _

theorem IsJson.starts {t : List UInt8} (h : IsJson t) : Starts t := by
  cases h with
  | scalar h => exact h.starts
  | bracket f items hlead hvalue h => exact h.starts

theorem IsLead.starts {f : Frame} {lead v : List UInt8} (h : IsLead f lead) (hv : Starts v) : Starts (lead ++ v) := by
  cases h with
  | list => exact hv
  | object => exact starts_cons (by decide) _

theorem Follows.stops {f : Frame} {items : List (List UInt8)} {t : List UInt8} (h : Follows f items t)
    (rest : List UInt8) : Stops (t ++ rest) := by
  cases h with
  | close hw =>
    rw [List.append_assoc]
    refine hw.stops ?_
    cases f <;> exact stops_cons (by decide) _
  | item hw =>
    rw [List.append_assoc]
    exact hw.stops (stops_cons (by decide) _)

end ForgeBridge.Json
