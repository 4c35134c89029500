import ForgeBridge.Url.Idna.Direction
import ForgeBridge.Url.Idna.Joiners
import ForgeBridge.Url.Idna.Mapping
import ForgeBridge.Url.Idna.Normal
import ForgeBridge.Url.Punycode

/-!
Domain names as URLs hold them: in small letters, each label in ASCII. A label with other characters
is encoded behind a mark, and a label with the mark must be one that is encoded so.
-/

namespace ForgeBridge.Url

/-- An ASCII character that no domain name in a URL may hold. -/
def isForbidden (c : Char) : Bool :=
  c ≤ ' ' || c = '\x7f' || ['%', '#', '/', ':', '<', '>', '?', '@', '[', '\\', ']', '^', '|'].contains c

def isAscii (label : List Char) : Bool := label.all (·.toNat < 128)

/-- The mark of an encoded label. -/
def encodedMark : List Char := ['x', 'n', '-', '-']

/-- The ASCII form of a label. -/
def asciiLabel (label : List Char) : List Char :=
  if isAscii label then label else encodedMark ++ Punycode.encode label

/-- Whether a label is in the form in which labels are encoded. -/
def isSettled (label : List Char) : Bool :=
  !isAscii label && label.all (Idna.fate · = .kept) && Idna.normal label = label &&
    !label.any isForbidden && !label.contains '.' && !encodedMark.isPrefixOf label

/-- The label that is meant by a label that may be encoded. -/
def label? (label : List Char) : Option (List Char) :=
  if encodedMark.isPrefixOf label then
    (Punycode.decode (label.drop encodedMark.length)).filter isSettled
  else some label

/-- Whether a label can stand by itself. -/
def isLabel (label : List Char) : Bool :=
  isAscii label || (!label.head?.any Idna.isMark && Idna.joinersFit [] label)

/-- The ASCII form of a domain name. -/
def domainToAscii? (cs : List Char) : Option (List Char) := do
  let cs := Idna.normal (← Idna.mapped? cs)
  if cs.any isForbidden then none
  let labels := Text.splitAt '.' cs
  let meant ← labels.mapM label?
  if !meant.all isLabel then none
  if meant.any Idna.hasRightToLeft && !meant.all Idna.keepsDirection then none
  -- a label that came encoded stays as it is; what it means was only checked
  return ['.'].intercalate (labels.map asciiLabel)

end ForgeBridge.Url
