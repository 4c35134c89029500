import ForgeBridge.CommandLine.Options
import ForgeBridge.Text.Pieces
import ForgeBridge.Text.Similarity

/-!
Reading a command line, word by word. The value of a flag is in the same word or is the next word,
unless that is a flag itself; a flag whose value is still to come is settled only by the word that
follows it.
-/

namespace ForgeBridge.CommandLine

/-- Why a command line gives no options. -/
inductive Stop where
  | help
  | version
  | misuse (m : Misuse)
deriving DecidableEq

/-- A flag that has been read, with its value as far as it has one. -/
structure Pending where
  flag : Flag
  value : Option String
deriving DecidableEq

/-- What the words so far say. -/
structure Progress where
  config : Option String
  listen : Option String
  /-- The flags that are settled, in order. -/
  used : List Flag
  pending : Option Pending
deriving DecidableEq

namespace Progress

def empty : Progress := ⟨none, none, [], none⟩

/-- The options that the words ask for. -/
def options (p : Progress) : Options :=
  ⟨p.config.getD defaultConfig, p.listen, p.used.contains .json⟩

/-- Takes in a flag with its value. -/
def take (p : Progress) (f : Flag) (value : Option String) : Except Stop Progress :=
  if f.takesValue ∧ value = none then .error (.misuse (.noValue f))
  else if p.used.contains f then .error (.misuse (.repeated f))
  else
    match f with
    | .help => .error .help
    | .version => .error .version
    | .json => .ok { p with used := p.used ++ [f] }
    | .listen => .ok { p with listen := value, used := p.used ++ [f] }
    | .config =>
      if value = some "" then .error (.misuse (.noValue f))
      else .ok { p with config := value, used := p.used ++ [f] }

/-- Settles the flag that is pending. -/
def settle (p : Progress) : Except Stop Progress :=
  match p.pending with
  | none => .ok p
  | some ⟨flag, value⟩ => { p with pending := none }.take flag value

/-- The flags that are used in front of a word that makes no sense. -/
def usedSoFar (p : Progress) : List Flag :=
  match p.settle with
  | .ok p => p.used
  | .error _ => p.used

/-- A word that means nothing. -/
def unexpected (word : String) : Except Stop Progress := .error (.misuse (.unexpected word none []))

/-- Takes in a flag, once the one before is settled. Where its value is missing, it is pending. -/
def flag (p : Progress) (f : Flag) (value : Option String) : Except Stop Progress := do
  -- the flag before may fail only now, and its failure is told first
  let p ← p.settle
  if f.takesValue ∧ value = none then .ok { p with pending := some ⟨f, none⟩ } else p.take f value

/-- Takes in a word that starts with two hyphens: a name, and a value behind an equals sign. -/
def long (p : Progress) (name : String) (value : Option String) : Except Stop Progress :=
  match Flag.ofName? name with
  | none =>
    let similar := (Text.closest? name.toList (Flag.all.map (·.name))).bind Flag.ofName?
    .error (.misuse (.unexpected ("--" ++ name) similar p.usedSoFar))
  | some f =>
    match value with
    | some value =>
      if f.takesValue then p.flag f (some value)
      else .error (.misuse (.unwantedValue f value p.usedSoFar))
    | none => p.flag f none

/-- Takes in letters behind one hyphen. What follows the letter of a flag with a value is its value,
except for an equals sign in between. -/
def short (p : Progress) : List Char → Except Stop Progress
  | [] => .ok p
  | c :: cs =>
    match Flag.ofLetter? c with
    | none => unexpected (.ofList ['-', c])
    | some f =>
      if f.takesValue then
        match cs with
        | [] => p.flag f none
        | '=' :: value => p.flag f (some (.ofList value))
        | value => p.flag f (some (.ofList value))
      else do
        let p ← p.flag f none
        p.short cs

/-- Takes in one word. -/
def word (p : Progress) (w : String) : Except Stop Progress :=
  match w.toList with
  | '-' :: '-' :: cs =>
    match Text.cut ['='] cs with
    | some (name, value) => p.long (.ofList name) (some (.ofList value))
    | none => p.long (.ofList cs) none
  | '-' :: c :: cs => p.short (c :: cs)
  | _ =>
    match p.pending with
    | some ⟨f, none⟩ => .ok { p with pending := some ⟨f, some w⟩ }
    | _ => unexpected w

/-- Takes in all words. Behind a word of two hyphens, none is a flag. -/
def words (p : Progress) : List String → Except Stop Progress
  | [] => p.settle
  | "--" :: rest =>
    match rest with
    | [] => p.settle
    | w :: _ => unexpected w
  | w :: rest => do
    let p ← p.word w
    p.words rest

end Progress

/-- Reads a command line. -/
def parse (arguments : List String) : Except Stop Options :=
  (Progress.empty.words arguments).map (·.options)

end ForgeBridge.CommandLine
