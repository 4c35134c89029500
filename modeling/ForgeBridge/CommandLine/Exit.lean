import ForgeBridge.CommandLine.Parser
import ForgeBridge.Startup

/-!
How the program ends: its exit status, and what it writes besides its log.
-/

namespace ForgeBridge.CommandLine

structure Exit where
  code : Nat
  output : String
  errors : String
deriving DecidableEq

/-- The end of a program that was only asked something, or was asked for something it cannot do. -/
def Exit.ofStop : Stop → Exit
  | .help => ⟨0, help, ""⟩
  | .version => ⟨0, version, ""⟩
  | .misuse m => ⟨2, "", m.message⟩

/-- The end of a program that could not start its server. -/
def Exit.ofFailure (f : Startup.Failure) : Exit := ⟨1, "", f.report⟩

/-- The end of a program whose server has ended. -/
def Exit.good : Exit := ⟨0, "", ""⟩

end ForgeBridge.CommandLine
