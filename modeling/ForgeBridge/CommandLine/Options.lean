/-!
What the server can be told on its command line, and how it explains that.
-/

namespace ForgeBridge.CommandLine

structure Options where
  /-- The file with the configuration. -/
  config : String
  /-- The address to listen at, instead of the configured one. -/
  listen : Option String
  /-- Whether log lines are JSON. -/
  json : Bool
deriving DecidableEq

def programName : String := "waddle-bridge-server"
def programVersion : String := "0.1.0"

/-- The file with the configuration, unless the server is told. -/
def defaultConfig : String := "waddle-bridge.toml"

/-- What the words of a command line can ask for. -/
inductive Flag where
  | config
  | listen
  | json
  | help
  | version
deriving DecidableEq

namespace Flag

def all : List Flag := [.config, .listen, .json, .help, .version]

def name : Flag → String
  | .config => "config"
  | .listen => "listen"
  | .json => "json"
  | .help => "help"
  | .version => "version"

/-- The letter that is short for the name. -/
def letter? : Flag → Option Char
  | .config => some 'c'
  | .listen => some 'l'
  | .json => none
  | .help => some 'h'
  | .version => some 'V'

def ofName? (name : String) : Option Flag := all.find? (·.name = name)

def ofLetter? (c : Char) : Option Flag := all.find? (·.letter? = some c)

/-- What the value of a flag is called, if it has one. -/
def valueName? : Flag → Option String
  | .config => some "CONFIG"
  | .listen => some "LISTEN"
  | _ => none

def takesValue (f : Flag) : Bool := f.valueName?.isSome

/-- A flag as it is written, with a mark for its value. -/
def display (f : Flag) : String :=
  "--" ++ f.name ++
    match f.valueName? with
    | some value => " <" ++ value ++ ">"
    | none => ""

/-- What a flag is for. -/
def purpose : Flag → String
  | .config => "Path to the bridge configuration file [default: " ++ defaultConfig ++ "]"
  | .listen => "Listen address, overriding the configuration file"
  | .json => "Emit logs as JSON lines"
  | .help => "Print help"
  | .version => "Print version"

end Flag

/-- How the program is used, with certain flags or with any. -/
def usage (used : List Flag) : String :=
  "Usage: " ++ programName ++ " " ++
    if used.isEmpty then "[OPTIONS]" else " ".intercalate (used.eraseDups.map Flag.display)

/-- A text with blanks up to a width. -/
def padded (width : Nat) (s : String) : String :=
  s ++ .ofList (List.replicate (width - s.length) ' ')

/-- The line of help about a flag. -/
def helpLine (f : Flag) : String :=
  let short :=
    match f.letter? with
    | some c => "  -" ++ .ofList [c] ++ ", "
    | none => "      "
  short ++ padded 19 f.display ++ f.purpose ++ "\n"

def help : String :=
  "Waddle Social - HTTP host for the GitHub chat bridge\n\n" ++ usage [] ++ "\n\nOptions:\n" ++
    String.join (Flag.all.map helpLine)

def version : String := programName ++ " " ++ programVersion ++ "\n"

/-! ## Misuse -/

/-- Why a command line makes no sense. -/
inductive Misuse where
  /-- A word that means nothing, the flag that it may be meant for, and the flags before it. -/
  | unexpected (word : String) (similar : Option Flag) (used : List Flag)
  | noValue (flag : Flag)
  | repeated (flag : Flag)
  | unwantedValue (flag : Flag) (value : String) (used : List Flag)
deriving DecidableEq

namespace Misuse

/-- What is wrong. -/
def reason : Misuse → String
  | .unexpected word _ _ => "unexpected argument '" ++ word ++ "' found"
  | .noValue flag => "a value is required for '" ++ flag.display ++ "' but none was supplied"
  | .repeated flag => "the argument '" ++ flag.display ++ "' cannot be used multiple times"
  | .unwantedValue flag value _ =>
    "unexpected value '" ++ value ++ "' for '" ++ flag.display ++ "' found; no more were expected"

/-- What could be done about it. -/
def advice : Misuse → String
  | .unexpected _ none used => usage used ++ "\n\n"
  | .unexpected _ (some similar) used =>
    "  tip: a similar argument exists: '--" ++ similar.name ++ "'\n\n" ++
      usage (used ++ [similar]) ++ "\n\n"
  | .noValue _ => ""
  | .repeated _ => usage [] ++ "\n\n"
  | .unwantedValue flag _ used => usage (used ++ [flag]) ++ "\n\n"

def message (m : Misuse) : String :=
  "error: " ++ m.reason ++ "\n\n" ++ m.advice ++ "For more information, try '--help'.\n"

end Misuse

end ForgeBridge.CommandLine
