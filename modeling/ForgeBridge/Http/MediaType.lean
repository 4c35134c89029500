import ForgeBridge.Text.Pieces

/-!
Media types: a type, a subtype whose last part behind a plus sign is its suffix, and parameters.
-/

namespace ForgeBridge.Http

/-- A character of a word. -/
def isTokenChar (c : Char) : Bool :=
  c.isAlphanum || ['!', '#', '$', '%', '&', '\'', '*', '+', '-', '.', '^', '_', '\x60', '|', '~'].contains c

def isToken (cs : List Char) : Bool := !cs.isEmpty && cs.all isTokenChar

namespace MediaType

/-- A character between quotes. -/
def isQuotedChar (c : Char) : Bool := ' ' ≤ c && c ≠ '\x7f'

/-- What stands behind the quote that closes a value. The first character of a value in quotes may
be a quote. -/
def afterQuote? (cs : List Char) : Option (List Char) :=
  match cs with
  | [] => none
  | c :: cs =>
    if isQuotedChar c then
      match cs.dropWhile fun c => isQuotedChar c && c ≠ '"' with
      | '"' :: rest => some rest
      | _ => none
    else none

/-- What follows the value of a parameter and its semicolon; none if there is no such value. A value
is a word, or text in quotes that blanks may follow. -/
def afterValue? (cs : List Char) : Option (List Char) :=
  match cs with
  | '"' :: quoted =>
    match (afterQuote? quoted).map (·.dropWhile (· = ' ')) with
    | some [] => some []
    | some (';' :: rest) => some rest
    | _ => none
  | _ =>
    match cs.takeWhile isTokenChar, cs.dropWhile isTokenChar with
    | _, [] => some []
    | _ :: _, ';' :: rest => some rest
    | _, _ => none

theorem length_dropWhile_le (p : Char → Bool) (cs : List Char) :
    (cs.dropWhile p).length ≤ cs.length := (List.dropWhile_sublist p).length_le

theorem length_afterQuote? {cs rest : List Char} (h : afterQuote? cs = some rest) :
    rest.length ≤ cs.length := by
  cases cs with
  | nil => cases h
  | cons c cs =>
    have hle := length_dropWhile_le (fun c => isQuotedChar c && c ≠ '"') cs
    simp only [afterQuote?] at h
    split at h
    · split at h
      · rename_i r hr
        cases h
        rw [hr] at hle
        simp only [List.length_cons] at hle ⊢
        omega
      · cases h
    · cases h

theorem length_afterValue? {cs rest : List Char} (h : afterValue? cs = some rest) :
    rest.length ≤ cs.length := by
  unfold afterValue? at h
  split at h
  · rename_i quoted
    split at h
    · cases h; simp
    · rename_i r hr
      cases h
      obtain ⟨a, ha, hd⟩ := Option.map_eq_some_iff.1 hr
      have h1 := length_afterQuote? ha
      have h2 := length_dropWhile_le (· = ' ') a
      rw [hd] at h2
      simp only [List.length_cons] at h2 ⊢
      omega
    · cases h
  · have hle := length_dropWhile_le isTokenChar cs
    split at h
    · cases h; simp
    · rename_i hd
      cases h
      rw [hd] at hle
      simp only [List.length_cons] at hle
      omega
    · cases h

/-- Whether text is a list of parameters. Blanks may stand in front of each. -/
def areParameters (cs : List Char) : Bool :=
  match (cs.dropWhile (· = ' ')).takeWhile isTokenChar,
      _h : (cs.dropWhile (· = ' ')).dropWhile isTokenChar with
  | [], [] => true
  | _ :: _, '=' :: value =>
    match _hv : afterValue? value with
    | some rest => areParameters rest
    | none => false
  | _, _ => false
termination_by cs.length
decreasing_by
  have h1 := length_afterValue? _hv
  have h2 := length_dropWhile_le isTokenChar (cs.dropWhile (· = ' '))
  have h3 := length_dropWhile_le (· = ' ') cs
  rw [_h] at h2
  simp only [List.length_cons] at h2
  omega

end MediaType

/-- A media type without its parameters, in small letters. -/
structure MediaType where
  type : String
  subtype : String
  suffix : Option String
deriving DecidableEq

namespace MediaType

/-- The subtype and the suffix of a word. A plus sign in front is part of the subtype. -/
def ofSubtype (word : List Char) : String × Option String :=
  let suffix := (word.reverse.takeWhile (· ≠ '+')).reverse
  match word.take (word.length - suffix.length - 1) with
  | [] => (.ofList word, none)
  | subtype => (.ofList subtype, some (.ofList suffix))

/-- Reads a media type. A blank may stand for the semicolon in front of the parameters. -/
def ofText? (s : String) : Option MediaType :=
  let cs := s.toList.map Char.toLower
  match cs.takeWhile isTokenChar, cs.dropWhile isTokenChar with
  | first :: type, '/' :: rest =>
    let word := rest.takeWhile isTokenChar
    let (subtype, suffix) := ofSubtype word
    let mediaType : MediaType := ⟨.ofList (first :: type), subtype, suffix⟩
    match word, rest.dropWhile isTokenChar with
    | _, [] => some mediaType
    | _ :: _, c :: parameters =>
      if (c = ';' ∨ c = ' ') ∧ areParameters parameters then some mediaType else none
    | _, _ => none
  | _, _ => none

/-- Whether what is sent under a media type is JSON. -/
def isJson (m : MediaType) : Bool :=
  m.type = "application" && (m.subtype = "json" || m.suffix = some "json")

end MediaType

end ForgeBridge.Http
