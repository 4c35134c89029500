import ForgeBridge.Text.Position
import ForgeBridge.Text.Quoted

/-!
How loading a configuration can fail.
-/

namespace ForgeBridge

/-- Why a file cannot be read, other than that it is not there. -/
inductive ReadFailure where
  | isDirectory
  | notDirectory
  | nameTooLong
  | notText
  | nulInPath
deriving DecidableEq

def ReadFailure.message : ReadFailure → String
  | .isDirectory => "Is a directory (os error 21)"
  | .notDirectory => "Not a directory (os error 20)"
  | .nameTooLong => "File name too long (os error 36)"
  | .notText => "stream did not contain valid UTF-8"
  | .nulInPath => "file name contained an unexpected NUL byte"

inductive ConfigError where
  | fileNotFound (path : String)
  /-- The place is told where it is known. -/
  | invalidToml (position : Option Text.Position) (message : String)
  | missingRequiredFields (fields : List String)
  | invalidValue (field message : String)
  | unreadable (failure : ReadFailure)
deriving DecidableEq

namespace ConfigError

/-- Names in a list, each in quotes. -/
def quotedList (names : List String) : String :=
  "[" ++ ", ".intercalate (names.map Text.quoted) ++ "]"

def message : ConfigError → String
  | .fileNotFound path => "configuration file not found at " ++ path
  | .invalidToml position message =>
    let (line, column) :=
      match position with
      | some p => (p.line, p.column)
      | none => (0, 0)
    "invalid TOML at line " ++ toString line ++ ", column " ++ toString column ++ ": " ++ message
  | .missingRequiredFields fields => "missing required fields: " ++ quotedList fields
  | .invalidValue field message => "invalid value for " ++ field ++ ": " ++ message
  | .unreadable failure => "I/O error reading configuration: " ++ failure.message

end ConfigError

end ForgeBridge
