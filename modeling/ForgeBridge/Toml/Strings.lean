import ForgeBridge.Toml.Parser

/-!
Blanks, comments and strings of TOML. A string is basic, with escapes, or literal, without; both may
go over several lines, which then end in one newline character whatever ends them in the text.
-/

namespace ForgeBridge.Toml

open Toml.Parser

/-! ## Blanks and comments -/

def isBlank (c : Char) : Bool := c = ' ' || c = '\t'

/-- A character of a comment. -/
def isCommentChar (c : Char) : Bool := c = '\t' || ' ' ≤ c && c ≠ '\x7f'

def blanks : Parser Unit := discard (takeWhile isBlank)

def newline : Parser Unit := orElse (char '\n') (char '\r' *> char '\n')

def comment : Parser Unit := char '#' *> discard (takeWhile isCommentChar)

/-- The end of a line or of the text. -/
def lineEnd : Parser Unit := orElse newline finish

/-- What may stand behind an expression on its line. -/
def lineRest : Parser Unit := do
  blanks
  discard (optional comment)
  lineEnd

/-- Blanks, comments and newlines, as inside an array. -/
def filler : Parser Unit :=
  untilDone do
    blanks
    match ← peek with
    | some '#' => do
      comment
      newline
      return false
    | some '\n' | some '\r' => do
      newline
      return false
    | _ => return true

/-! ## Escapes -/

def isHexDigit (c : Char) : Bool :=
  c.isDigit || ('a' ≤ c && c ≤ 'f') || ('A' ≤ c && c ≤ 'F')

/-- The value of a hexadecimal digit of either case. -/
def hexValue (c : Char) : Nat :=
  if c.isDigit then c.toNat - '0'.toNat
  else if 'a' ≤ c then c.toNat - 'a'.toNat + 10
  else c.toNat - 'A'.toNat + 10

/-- The number that digits stand for in a base. -/
def numeral (base : Nat) (digits : List Char) : Nat :=
  digits.foldl (fun n c => n * base + hexValue c) 0

/-- A character given by so many hexadecimal digits. -/
def charCode (n : Nat) : Parser Char :=
  (takeExactly n isHexDigit).checked fun digits =>
    if (numeral 16 digits).isValidChar then .ok (.ofNat (numeral 16 digits))
    else .error (some .outOfRange)

/-- The escape letters that stand for one character each. -/
def escapeLetter? : Char → Option Char
  | 'b' => some '\x08'
  | 'f' => some '\x0c'
  | 'n' => some '\n'
  | 'r' => some '\r'
  | 't' => some '\t'
  | '\\' => some '\\'
  | '"' => some '"'
  | _ => none

/-- What may follow the backslash of an escape. -/
def escapeLetters : List Wanted :=
  ['b', 'f', 'n', 'r', 't', 'u', 'U', '\\', '"'].map .character

/-- The failure behind a character that makes no escape. A character of several bytes is not
passed. -/
def badEscape (c : Char) (rest : List Char) : Failure :=
  ⟨some "escape sequence", escapeLetters, none, if c.toNat < 0x80 then rest else c :: rest, true⟩

/-- What follows the backslash of an escape. -/
def escapeRest : Parser Char
  | [] => .error (.before [])
  | c :: rest =>
    match escapeLetter? c with
    | some d => .ok (d, rest)
    | none =>
      if c = 'u' then ((charCode 4).committed.labelled "unicode 4-digit hex code") rest
      else if c = 'U' then ((charCode 8).committed.labelled "unicode 8-digit hex code") rest
      else .error (badEscape c rest)

def escape : Parser Char := char '\\' *> escapeRest

/-! ## Strings of one line -/

/-- A character that stands for itself in a basic string. -/
def isBasicChar (c : Char) : Bool := isCommentChar c && c ≠ '"' && c ≠ '\\'

/-- A character of a literal string. -/
def isLiteralChar (c : Char) : Bool := isCommentChar c && c ≠ '\''

def basicPiece : Parser (List Char) :=
  orElse (takeWhile1 isBasicChar) ((fun c => [c]) <$> escape)

def basicString : Parser String := do
  char '"'
  let pieces ← many basicPiece
  (char '"').committed.labelled "basic string"
  return .ofList pieces.flatten

def literalString : Parser String :=
  labelled "literal string" do
    char '\''
    let text ← takeWhile isLiteralChar
    (char '\'').committed
    return .ofList text

/-! ## Strings of several lines -/

/-- A backslash at the end of a line, which takes away all blanks and newlines that follow. -/
def lineJoin : Parser Unit := do
  char '\\'
  blanks
  newline
  discard (many (orElse newline (discard (takeWhile1 isBlank))))

def multilineBasicPiece : Parser (List Char) :=
  orElse (takeWhile1 isBasicChar) <|
  orElse ((fun _ => []) <$> lineJoin) <|
  orElse ((fun c => [c]) <$> escape) ((fun _ => ['\n']) <$> newline)

def multilineLiteralPiece : Parser (List Char) :=
  orElse ((fun c => [c]) <$> satisfy isLiteralChar) ((fun _ => ['\n']) <$> newline)

/-- One or two quotes that belong to the string, as what follows them tells. -/
def innerQuotes (quote : Char) (ahead : Parser Unit) : Parser (List Char) :=
  orElse
    (do word [quote, quote]; lookahead ahead; return [quote, quote])
    (do char quote; lookahead ahead; return [quote])

/-- The text of a string of several lines, up to the three quotes that end it. -/
def multilineBody (quote : Char) (piece : Parser (List Char)) : Parser (List Char) := do
  let start ← many piece
  let middle ← many do
    let quotes ← innerQuotes quote (discard piece)
    let pieces ← many piece
    return quotes ++ pieces.flatten
  let last ← optional (innerQuotes quote (word [quote, quote, quote]))
  return start.flatten ++ middle.flatten ++ last.getD []

/-- A string of several lines; a newline right at its start does not count. -/
def multilineString (label : String) (quote : Char) (piece : Parser (List Char)) : Parser String :=
  labelled label do
    word [quote, quote, quote]
    discard (optional newline)
    let text ← (multilineBody quote piece).committed
    (word [quote, quote, quote]).committed
    return .ofList text

def anyString : Parser String :=
  orElse (multilineString "multiline basic string" '"' multilineBasicPiece) <|
  orElse basicString <|
  orElse (multilineString "multiline literal string" '\'' multilineLiteralPiece) literalString

end ForgeBridge.Toml
