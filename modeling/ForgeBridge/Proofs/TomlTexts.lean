import ForgeBridge.Toml.Value
import Mathlib.Data.List.Forall2

/-!
# TOML texts

What a TOML text is, apart from how it is read, as far as it holds texts under names: blanks, comments and ends of
lines (`IsFiller`), strings of one line (`Spells`) and of several (`IsMultiline`), keys (`IsKey`), arrays (`IsArray`)
and the lines of a document (`IsDocument`).
-/

namespace ForgeBridge.Toml

/-! ## Blanks and comments -/

/-- Spaces and tabs, or nothing. -/
def Blank (w : List Char) : Prop := ∀ c ∈ w, isBlank c = true

instance (w : List Char) : Decidable (Blank w) := inferInstanceAs (Decidable (∀ c ∈ w, isBlank c = true))

theorem blank_nil : Blank [] := List.forall_mem_nil _

/-- The end of a line. -/
inductive IsNewline : List Char → Prop
  | lineFeed : IsNewline ['\n']
  | both : IsNewline ['\r', '\n']

/-- A comment up to the end of its line, or nothing. -/
inductive IsRemark : List Char → Prop
  | absent : IsRemark []
  | comment {t : List Char} (h : ∀ c ∈ t, isCommentChar c = true) : IsRemark ('#' :: t)

/-- What may stand between the elements of an array: blanks, and ends of lines with comments in front of them. -/
inductive IsFiller : List Char → Prop
  | blank {w : List Char} (hw : Blank w) : IsFiller w
  | line {w r n t : List Char} (hw : Blank w) (hr : IsRemark r) (hn : IsNewline n) (h : IsFiller t) :
      IsFiller (w ++ (r ++ (n ++ t)))

/-! ## Strings -/

/-- What stands behind the backslash of an escape: a letter, or a mark and the number of the character. -/
inductive IsEscape (c : Char) : List Char → Prop
  | letter {e : Char} (h : escapeLetter? e = some c) : IsEscape c [e]
  | short {ds : List Char} (hlength : ds.length = 4) (hdigits : ∀ d ∈ ds, isHexDigit d = true)
      (h : numeral 16 ds = c.toNat) : IsEscape c ('u' :: ds)
  | long {ds : List Char} (hlength : ds.length = 8) (hdigits : ∀ d ∈ ds, isHexDigit d = true)
      (h : numeral 16 ds = c.toNat) : IsEscape c ('U' :: ds)

/-- The characters `s`, written between double quotes as `t`. -/
inductive Spells : (s t : List Char) → Prop
  | nil : Spells [] []
  | plain {c : Char} {s t : List Char} (hc : isBasicChar c = true) (h : Spells s t) : Spells (c :: s) (c :: t)
  | escape {c : Char} {e s t : List Char} (he : IsEscape c e) (h : Spells s t) :
      Spells (c :: s) ('\\' :: (e ++ t))

/-- Blanks and ends of lines. -/
inductive IsGap : List Char → Prop
  | nil : IsGap []
  | blank {c : Char} {t : List Char} (hc : isBlank c = true) (h : IsGap t) : IsGap (c :: t)
  | newline {n t : List Char} (hn : IsNewline n) (h : IsGap t) : IsGap (n ++ t)

/-- A text that starts neither with a blank nor with the end of a line. -/
def Inked (t : List Char) : Prop := ∀ c ∈ t.head?, isBlank c = false ∧ c ≠ '\n' ∧ c ≠ '\r'

/-- The characters `s`, written over several lines as `t`, with no double quote in it. A backslash at the end of a
line takes away all up to the next ink. -/
inductive SpellsLines : (s t : List Char) → Prop
  | nil : SpellsLines [] []
  | plain {c : Char} {s t : List Char} (hc : isBasicChar c = true) (h : SpellsLines s t) :
      SpellsLines (c :: s) (c :: t)
  | escape {c : Char} {e s t : List Char} (he : IsEscape c e) (h : SpellsLines s t) :
      SpellsLines (c :: s) ('\\' :: (e ++ t))
  | newline {n s t : List Char} (hn : IsNewline n) (h : SpellsLines s t) : SpellsLines ('\n' :: s) (n ++ t)
  | join {w n gap s t : List Char} (hw : Blank w) (hn : IsNewline n) (hgap : IsGap gap) (ht : Inked t)
      (h : SpellsLines s t) : SpellsLines s ('\\' :: (w ++ (n ++ (gap ++ t))))

/-- The characters `s`, copied over several lines as `t`, with no single quote in it. -/
inductive CopiesLines : (s t : List Char) → Prop
  | nil : CopiesLines [] []
  | plain {c : Char} {s t : List Char} (hc : isLiteralChar c = true) (h : CopiesLines s t) :
      CopiesLines (c :: s) (c :: t)
  | newline {n s t : List Char} (hn : IsNewline n) (h : CopiesLines s t) : CopiesLines ('\n' :: s) (n ++ t)

/-- One quote or two. -/
inductive IsQuotes (q : Char) : List Char → Prop
  | one : IsQuotes q [q]
  | two : IsQuotes q [q, q]

/-- What stands in a string of several lines behind its first stretch without quotes: one quote or two at a time, with
a stretch behind them each, or with the end of the string. -/
inductive Continues (q : Char) (Stretch : List Char → List Char → Prop) : (s t : List Char) → Prop
  | done : Continues q Stretch [] []
  | last {qs : List Char} (hqs : IsQuotes q qs) : Continues q Stretch qs qs
  | quotes {qs s t s' t' : List Char} (hqs : IsQuotes q qs) (hne : t ≠ []) (h : Stretch s t)
      (h' : Continues q Stretch s' t') : Continues q Stretch (qs ++ (s ++ s')) (qs ++ (t ++ t'))

/-- What stands in front of the first line of a string of several lines: the end of a line, which does not count, or
nothing if a line does not end there. -/
def IsOpening (n t : List Char) : Prop := IsNewline n ∨ n = [] ∧ ∀ c ∈ t.head?, c ≠ '\n' ∧ c ≠ '\r'

/-- Three quotes, some stretches, and three quotes. -/
inductive IsMultiline (q : Char) (Stretch : List Char → List Char → Prop) (s : String) : List Char → Prop
  | intro {n s₁ t₁ s₂ t₂ : List Char} (hn : IsOpening n t₁) (h₁ : Stretch s₁ t₁) (h₂ : Continues q Stretch s₂ t₂)
      (hs : s.toList = s₁ ++ s₂) : IsMultiline q Stretch s (q :: q :: q :: (n ++ (t₁ ++ (t₂ ++ [q, q, q]))))

/-- A string of one line. -/
inductive IsLineText (s : String) : List Char → Prop
  | basic {t : List Char} (h : Spells s.toList t) : IsLineText s ('"' :: (t ++ ['"']))
  | literal (h : ∀ c ∈ s.toList, isLiteralChar c = true) : IsLineText s ('\'' :: (s.toList ++ ['\'']))

/-- A string. -/
inductive IsText (s : String) : List Char → Prop
  | line {t : List Char} (h : IsLineText s t) : IsText s t
  | basicLines {t : List Char} (h : IsMultiline '"' SpellsLines s t) : IsText s t
  | literalLines {t : List Char} (h : IsMultiline '\'' CopiesLines s t) : IsText s t

/-- A key without dots. -/
inductive IsKey (s : String) : List Char → Prop
  | bare (hne : s.toList ≠ []) (h : ∀ c ∈ s.toList, isBareChar c = true) : IsKey s s.toList
  | quoted {t : List Char} (h : IsLineText s t) : IsKey s t

/-! ## Arrays -/

/-- What stands in an array behind an element: other elements, each behind a comma, and maybe one comma more. -/
inductive Follows : (items : List (List Char)) → List Char → Prop
  | done {t : List Char} (h : IsFiller t) : Follows [] t
  | comma {t t' : List Char} (h : IsFiller t) (h' : IsFiller t') : Follows [] (t ++ ',' :: t')
  | item {t t' i u : List Char} {items : List (List Char)} (h : IsFiller t) (h' : IsFiller t')
      (hitems : Follows items u) : Follows (i :: items) (t ++ ',' :: (t' ++ (i ++ u)))

/-- Elements between brackets. -/
inductive IsArray : (items : List (List Char)) → List Char → Prop
  | empty {t : List Char} (h : IsFiller t) : IsArray [] ('[' :: (t ++ [']']))
  | items {t i u : List Char} {items : List (List Char)} (h : IsFiller t) (hitems : Follows items u) :
      IsArray (i :: items) ('[' :: (t ++ (i ++ (u ++ [']']))))

/-- An array of strings. -/
def IsTexts (ss : List String) (t : List Char) : Prop := ∃ items, IsArray items t ∧ List.Forall₂ IsText ss items

/-! ## Documents -/

/-- A line without its end: a key with an array of strings, or neither of them, and maybe a comment. -/
inductive IsLine : (es : List (String × List String)) → List Char → Prop
  | remark {w r : List Char} (hw : Blank w) (hr : IsRemark r) : IsLine [] (w ++ r)
  | entry {e : String × List String} {w k w₁ w₂ v w₃ r : List Char} (hw : Blank w) (hk : IsKey e.1 k)
      (hw₁ : Blank w₁) (hw₂ : Blank w₂) (hv : IsTexts e.2 v) (hw₃ : Blank w₃) (hr : IsRemark r) :
      IsLine [e] (w ++ (k ++ (w₁ ++ '=' :: (w₂ ++ (v ++ (w₃ ++ r))))))

/-- Lines, with the ends of lines between them. -/
inductive AreLines : (es : List (String × List String)) → List Char → Prop
  | last {es : List (String × List String)} {t : List Char} (h : IsLine es t) : AreLines es t
  | line {es es' : List (String × List String)} {t n t' : List Char} (h : IsLine es t) (hn : IsNewline n)
      (h' : AreLines es' t') : AreLines (es ++ es') (t ++ (n ++ t'))

/-- A whole text, which holds these entries in this order. A mark of its encoding may stand in front. -/
def IsDocument (es : List (String × List String)) (t : List Char) : Prop :=
  AreLines es t ∨ ∃ t', t = '\ufeff' :: t' ∧ AreLines es t'

end ForgeBridge.Toml
