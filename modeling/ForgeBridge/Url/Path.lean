import ForgeBridge.Url.Percent

/-!
Paths of URLs. A path is read segment by segment: a dot stays where it is, two dots go one segment
back, and all that may not stand in a path is percent encoded.
-/

namespace ForgeBridge.Url

/-- What the scheme of a URL says about the rest of it. -/
inductive SchemeKind where
  | file
  | special
  | other
deriving DecidableEq

def SchemeKind.isSpecial : SchemeKind → Bool
  | .file | .special => true
  | .other => false

/-- What goes between the host and the query. -/
inductive Path where
  /-- Text that no other reference can be based on. -/
  | flat (text : String)
  /-- Segments with a slash in front of each. -/
  | segments (list : List (List Char))
deriving DecidableEq

namespace Path

def display : Path → String
  | .flat text => text
  | .segments list => .ofList (list.flatMap ('/' :: ·))

/-- A character that ends a segment. -/
def isSlash (kind : SchemeKind) (c : Char) : Bool := c = '/' || c = '\\' && kind.isSpecial

/-- The ways to write a dot. -/
def dots : List (List Char) := [['.'], ['%', '2', 'e'], ['%', '2', 'E']]

/-- A segment that stands for the place where it is. -/
def isDot (segment : List Char) : Bool := dots.contains segment

/-- A segment that goes one segment back. -/
def isDoubleDot (segment : List Char) : Bool :=
  dots.any fun d => d.isPrefixOf segment && dots.contains (segment.drop d.length)

/-- A letter and a colon, as some systems name their disks. -/
def isDrive (segment : List Char) : Bool :=
  match segment with
  | [c, d] => c.isAlpha && (d = ':' || d = '|')
  | _ => false

/-- The path without its last segment. In a file path, the name of a disk stays. -/
def shorten (kind : SchemeKind) (path : List (List Char)) : List (List Char) :=
  match kind, path with
  | .file, [drive] => if isDrive drive then [drive] else []
  | _, _ => path.dropLast

/-- Adds a segment that is already encoded; `isLast` tells that no slash follows it. -/
def push (kind : SchemeKind) (path : List (List Char)) (segment : List Char) (isLast : Bool) :
    List (List Char) :=
  if isDoubleDot segment then
    if isLast then shorten kind path ++ [[]] else shorten kind path
  else if isDot segment then
    if isLast then path ++ [[]] else path
  else if kind = .file ∧ path.isEmpty ∧ isDrive segment then path ++ [[segment.headD 'C', ':']]
  else path ++ [segment]

/-- Adds segments, the last of which no slash follows. -/
def pushAll (kind : SchemeKind) (path : List (List Char)) : List (List Char) → List (List Char)
  | [] => path
  | [segment] => push kind path segment true
  | segment :: others => pushAll kind (push kind path segment false) others

/-- A text taken apart where a segment ends. -/
def split (kind : SchemeKind) : List Char → List (List Char)
  | [] => [[]]
  | c :: cs =>
    match split kind cs with
    | [] => [[c]]
    | segment :: others =>
      if isSlash kind c then [] :: segment :: others else (c :: segment) :: others

/-- In a file path no segment in front is empty. -/
def trim (kind : SchemeKind) (path : List (List Char)) : List (List Char) :=
  if kind = .file then
    match path.dropWhile List.isEmpty with
    | [] => [[]]
    | path => path
  else path

/-- The segments of a text behind the first slash. -/
def ofText (kind : SchemeKind) (cs : List Char) : List (List Char) :=
  trim kind (pushAll kind [] ((split kind cs).map (percentEncode .path)))

/-! ## Adding segments -/

/-- The path without an empty last segment, unless it is the only one. -/
def popIfEmpty (path : List (List Char)) : List (List Char) :=
  if 1 < path.length ∧ path.getLast? = some [] then path.dropLast else path

/-- The set that is encoded in a segment that is given as a whole. -/
def segmentSet (kind : SchemeKind) : EncodeSet :=
  if kind.isSpecial then .specialSegment else .segment

/-- Whether a character counts in a URL: tabs and newlines do not. -/
def counts (c : Char) : Bool := c ≠ '\t' && c ≠ '\n' && c ≠ '\r'

/-- Adds one segment that is given as a whole. A segment of one dot or of two is left out. -/
def extend (kind : SchemeKind) (path : List (List Char)) (segment : List Char) :
    List (List Char) :=
  if segment = ['.'] ∨ segment = ['.', '.'] then path
  else
    let base := if path = [[]] then [] else path
    push kind base (percentEncode (segmentSet kind) (segment.filter counts)) true

end Path

end ForgeBridge.Url
