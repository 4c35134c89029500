import ForgeBridge.Url.Host
import ForgeBridge.Url.Path

/-!
URLs as browsers read them: blanks around a URL do not count, tabs and newlines inside it neither,
and for schemes that are special a backslash is as good as a slash and slashes may be missing.
-/

namespace ForgeBridge

structure Url where
  scheme : String
  username : String
  password : Option String
  host : Option Url.Host
  /-- The port, unless it is the usual one of the scheme. -/
  port : Option UInt16
  path : Url.Path
  query : Option String
  fragment : Option String
deriving DecidableEq

namespace Url

/-- The kind of a scheme. -/
def kindOf (scheme : String) : SchemeKind :=
  match scheme with
  | "file" => .file
  | "http" | "https" | "ws" | "wss" | "ftp" => .special
  | _ => .other

/-- The usual port of a scheme. -/
def defaultPort (scheme : String) : Option UInt16 :=
  match scheme with
  | "http" | "ws" => some 80
  | "https" | "wss" => some 443
  | "ftp" => some 21
  | _ => none

/-- The characters of a URL that count. -/
def significant (s : String) : List Char :=
  let cs := s.toList.dropWhile (· ≤ ' ')
  (cs.reverse.dropWhile (· ≤ ' ')).reverse.filter Path.counts

def isSchemeChar (c : Char) : Bool := c.isAlphanum || c = '+' || c = '-' || c = '.'

/-- The scheme, in small letters, and what follows its colon. -/
def scheme? (cs : List Char) : Option (String × List Char) :=
  match cs with
  | c :: _ =>
    if c.isAlpha then
      match cs.dropWhile isSchemeChar with
      | ':' :: rest => some (.ofList ((cs.takeWhile isSchemeChar).map Char.toLower), rest)
      | _ => none
    else none
  | [] => none

/-! ## Authority -/

/-- A character that ends the authority. -/
def endsAuthority (kind : SchemeKind) (c : Char) : Bool := Path.isSlash kind c || c = '?' || c = '#'

/-- The user's name and password. -/
structure UserInfo where
  username : String
  password : Option String
deriving DecidableEq

def UserInfo.absent : UserInfo := ⟨"", none⟩

/-- The name and the password of a text in front of the last at sign. -/
def userInfoOf (cs : List Char) : UserInfo :=
  let encoded (cs : List Char) : String := .ofList (percentEncode .userinfo cs)
  match Text.cut [':'] cs with
  | some (name, password) =>
    ⟨encoded name, if password.isEmpty then none else some (encoded password)⟩
  | none => ⟨encoded cs, none⟩

/-- The user in front of an at sign, with what follows the sign. Of the authority, `behind` follows
it; there must be something on one side. -/
def userInfoAt (front behind rest : List Char) : Except Error (UserInfo × List Char) :=
  match front, behind, rest with
  | [], [], _ :: _ => .error .emptyHost
  | [], _, _ => .ok (.absent, rest)
  | _, _, _ => .ok (userInfoOf front, rest)

/-- The user's part of an authority and what follows it. -/
def userInfo (kind : SchemeKind) (cs : List Char) : Except Error (UserInfo × List Char) :=
  let authority := cs.takeWhile fun c => !endsAuthority kind c
  let behind := (authority.reverse.takeWhile (· ≠ '@')).reverse
  if behind.length = authority.length then .ok (.absent, cs)
  else
    let front := authority.take (authority.length - behind.length - 1)
    userInfoAt front behind (cs.drop (front.length + 1))

/-- The text of a host, up to a colon outside brackets or the end of the authority. -/
def hostText (kind : SchemeKind) (inBrackets : Bool) : List Char → List Char
  | [] => []
  | c :: cs =>
    if endsAuthority kind c || (c = ':' && !inBrackets) then []
    else c :: hostText kind (if c = '[' then true else if c = ']' then false else inBrackets) cs

/-- A port behind its colon and what follows it. -/
def portOf (scheme : String) (cs : List Char) : Except Error (Option UInt16 × List Char) :=
  let digits := cs.takeWhile Char.isDigit
  let rest := cs.dropWhile Char.isDigit
  if rest.head?.any fun c => !(c = '/' || c = '\\' || c = '?' || c = '#') then .error .badPort
  else
    match Text.decimal? digits with
    | none => .ok (none, rest)
    | some n =>
      if UInt16.size ≤ n then .error .badPort
      else if defaultPort scheme = some (.ofNat n) then .ok (none, rest)
      else .ok (some (.ofNat n), rest)

/-- The port behind a host, if there is one, and what follows it. -/
def portBehind (scheme : String) (cs : List Char) : Except Error (Option UInt16 × List Char) :=
  match cs with
  | ':' :: rest => portOf scheme rest
  | _ => .ok (none, cs)

/-- The host of an authority. It may be empty only where the scheme is not special, and there is
neither a user nor a port. -/
def hostOf (kind : SchemeKind) (text : List Char) (hasPort hasUser : Bool) : Except Error Host :=
  if text.isEmpty && (kind.isSpecial || hasPort || hasUser) then .error .emptyHost
  else if kind.isSpecial then Host.ofText text
  else Host.ofOtherText text

/-! ## Behind the authority -/

/-- The query and the fragment at the end of a URL. -/
def tail (kind : SchemeKind) (cs : List Char) : Option String × Option String :=
  let fragment (cs : List Char) : Option String :=
    match cs with
    | '#' :: rest => some (.ofList (percentEncode .fragment rest))
    | _ => none
  match cs with
  | '?' :: rest =>
    let set := if kind.isSpecial then EncodeSet.specialQuery else .query
    (some (.ofList (percentEncode set (rest.takeWhile (· ≠ '#')))),
      fragment (rest.dropWhile (· ≠ '#')))
  | _ => (none, fragment cs)

def endsPath (c : Char) : Bool := c = '?' || c = '#'

/-- A URL whose path is the front of `cs`, where one slash in front does not count. -/
def withPath (scheme : String) (user : UserInfo) (host : Option Host) (port : Option UInt16)
    (cs : List Char) : Url :=
  let kind := kindOf scheme
  let text := cs.takeWhile (!endsPath ·)
  let (query, fragment) := tail kind (cs.dropWhile (!endsPath ·))
  let path :=
    match text with
    | [] => if kind.isSpecial then [[]] else []
    | c :: rest => Path.ofText kind (if Path.isSlash kind c then rest else text)
  ⟨scheme, user.username, user.password, host, port, .segments path, query, fragment⟩

/-- A URL from its authority on. -/
def afterSlashes (scheme : String) (cs : List Char) : Except Error Url := do
  let kind := kindOf scheme
  let (user, cs) ← userInfo kind cs
  let text := hostText kind false cs
  let rest := cs.drop text.length
  let host ← hostOf kind text (rest.head? = some ':') (user ≠ .absent)
  let (port, rest) ← portBehind scheme rest
  return withPath scheme user (some host) port rest

/-- The URL of a file. A host that is this machine is left out. -/
def fileUrl (cs : List Char) : Except Error Url := do
  match cs with
  | c :: d :: rest =>
    if Path.isSlash .file c && Path.isSlash .file d then
      let text := rest.takeWhile fun c => !endsAuthority .file c
      if Path.isDrive text || text.isEmpty then return withPath "file" .absent none none rest
      let host ← Host.ofText text
      let path := rest.drop text.length
      if host = .domain "localhost" then return withPath "file" .absent none none path
      return withPath "file" .absent (some host) none path
    else return withPath "file" .absent none none cs
  | _ => return withPath "file" .absent none none cs

/-- A URL without an authority whose path is no list of segments. -/
def flatUrl (scheme : String) (cs : List Char) : Url :=
  let (query, fragment) := tail .other (cs.dropWhile (!endsPath ·))
  let text := percentEncode .controls (cs.takeWhile (!endsPath ·))
  ⟨scheme, "", none, none, none, .flat (.ofList text), query, fragment⟩

/-- Reads an absolute URL. -/
def parse (s : String) : Except Error Url :=
  match scheme? (significant s) with
  | none => .error .relative
  | some (scheme, rest) =>
    match kindOf scheme with
    | .file => fileUrl rest
    | .special => afterSlashes scheme (rest.dropWhile fun c => c = '/' || c = '\\')
    | .other =>
      match rest with
      | '/' :: '/' :: rest => afterSlashes scheme rest
      | '/' :: _ => .ok (withPath scheme .absent none none rest)
      | _ => .ok (flatUrl scheme rest)

/-- Whether a URL can be reached through the web. -/
def isWeb (u : Url) : Bool := u.scheme = "http" || u.scheme = "https"

/-! ## Writing -/

/-- The part of a URL that a request for it names. -/
def target (u : Url) : String :=
  u.path.display ++
    match u.query with
    | some query => "?" ++ query
    | none => ""

/-- The user's part of the authority. -/
def credentials (u : Url) : String :=
  match u.password with
  | some password => u.username ++ ":" ++ password ++ "@"
  | none => if u.username.isEmpty then "" else u.username ++ "@"

/-- A URL as text. Without a host, a path that starts with two slashes gets a dot in front, so that it
is not taken for a host. -/
def display (u : Url) : String :=
  let authority :=
    match u.host, kindOf u.scheme with
    | some host, _ =>
      "//" ++ u.credentials ++ host.display ++
        match u.port with
        | some port => ":" ++ toString port.toNat
        | none => ""
    | none, .file => "//"
    | none, _ =>
      match u.path with
      | .segments ([] :: _ :: _) => "/."
      | _ => ""
  u.scheme ++ ":" ++ authority ++ u.target ++
    match u.fragment with
    | some fragment => "#" ++ fragment
    | none => ""

end Url

end ForgeBridge
