import SourceAtlas.Text.Cut

/-!
# Arguments of the command line

Reading the words of a command line into a command.  An option is written `--name`, its value after
an equals sign or as the next word; after `--` every word is plain.  Nothing may be given twice, and
a value that does not fit makes the whole command line void.
-/

namespace SourceAtlas
namespace Cli

/-- The form in which a result is printed. -/
inductive Format where
  | text | json
  deriving DecidableEq, Repr

/-- An option with a value. -/
inductive Key where
  | format | jobs | config
  deriving DecidableEq, Repr

/-- An option without a value. -/
inductive Switch where
  | gitignore | summaries | progress | external
  deriving DecidableEq, Repr

/-- What a command scans. -/
structure Target where
  /-- The root of the project. -/
  path : String
  /-- The configuration file, if it is not the one in the root. -/
  config : Option String
  /-- Whether gitignore files count whatever the configuration says. -/
  gitignore : Bool
  deriving DecidableEq, Repr

/-- A command. -/
inductive Command where
  /-- Prints the model of a project. -/
  | scan (target : Target) (format : Format) (jobs : Option Nat) (summaries progress : Bool)
  /-- Prints the imports of a project. -/
  | deps (target : Target) (format : Format) (externalOnly : Bool)
  /-- Prints the languages. -/
  | languages
  deriving DecidableEq, Repr

/-- What a command line asks for. -/
inductive Request where
  | run (command : Command)
  | help
  | version
  /-- It asks for nothing that there is. -/
  | void
  deriving DecidableEq, Repr

/-- The words that a command knows. -/
structure Vocabulary where
  /-- Whether it takes a path. -/
  takesPath : Bool
  /-- Its options with a value. -/
  keys : List Key
  /-- Its options without one. -/
  switches : List Switch

/-- What was given to a command. -/
structure Given where
  /-- The path. -/
  path : Option String
  /-- The options with a value. -/
  values : List (Key × String)
  /-- The options without one. -/
  switches : List Switch

/-- Why the words of a command were not read to their end. -/
inductive Stop where
  | help | void
  deriving DecidableEq, Repr

/-! ## Values -/

/-- The spelling of an option with a value. -/
def Key.name : Key → String
  | format => "format"
  | jobs => "jobs"
  | config => "config"

/-- The spelling of an option without a value. -/
def Switch.name : Switch → String
  | gitignore => "gitignore"
  | summaries => "summaries"
  | progress => "progress"
  | external => "external"

/-- The form with a given name. -/
def Format.ofName? : String → Option Format
  | "text" => some .text
  | "json" => some .json
  | _ => none

/-- A count of at most 64 bits: digits, with a plus sign or without. -/
def count? (s : String) : Option Nat :=
  let digits := match s.toList with
    | '+' :: rest => rest
    | cs => cs
  if !digits.isEmpty && digits.all Char.isDigit then
    let n := digits.foldl (fun n c => n * 10 + (c.toNat - 0x30)) 0
    if n < 0x10000000000000000 then some n else none
  else none

/-- Whether a value fits an option. -/
def Key.admits (k : Key) (v : String) : Bool :=
  match k with
  | format => (Format.ofName? v).isSome
  | jobs => (count? v).isSome
  | config => v ≠ ""

/-! ## Reading -/

namespace Given

/-- Nothing. -/
def empty : Given := ⟨none, [], []⟩

/-- The value of an option. -/
def value? (g : Given) (k : Key) : Option String := (g.values.find? (·.1 = k)).map (·.2)

/-- Adds an option with its value. -/
def addValue (g : Given) (k : Key) (v : String) : Except Stop Given :=
  if (g.value? k).isNone && k.admits v then .ok { g with values := g.values ++ [(k, v)] }
  else .error .void

/-- Adds an option without a value. -/
def addSwitch (g : Given) (s : Switch) : Except Stop Given :=
  if g.switches.contains s then .error .void else .ok { g with switches := g.switches ++ [s] }

/-- Adds a path, if the command takes one. -/
def addPath (g : Given) (vocabulary : Vocabulary) (path : String) : Except Stop Given :=
  if vocabulary.takesPath && g.path.isNone && path ≠ "" then .ok { g with path := some path }
  else .error .void

end Given

/-- Whether a word is written like an option. -/
def isOption (word : String) : Bool := Text.startsWith word "-" && word ≠ "-"

/-- The name of an option after its hyphens, and the value after an equals sign. -/
def splitOption (body : List Char) : String × Option String :=
  match Text.cutFirst? '=' body with
  | some (name, v) => (String.ofList name, some (String.ofList v))
  | none => (String.ofList body, none)

/-- A command line as far as it has been read. -/
structure Reader where
  /-- What was given so far. -/
  given : Given
  /-- The option whose value is the next word. -/
  pending : Option Key
  /-- Whether all further words are plain. -/
  plain : Bool

namespace Reader

/-- Reads an option written in full, after its hyphens. -/
def readOption (vocabulary : Vocabulary) (r : Reader) (body : List Char) : Except Stop Reader :=
  let (name, attached) := splitOption body
  let key := vocabulary.keys.find? (·.name = name)
  let switch := vocabulary.switches.find? (·.name = name)
  match key, switch, attached with
  | some k, _, some v => (r.given.addValue k v).map fun g => { r with given := g }
  | some k, _, none => .ok { r with pending := some k }
  | none, some s, none => (r.given.addSwitch s).map fun g => { r with given := g }
  | _, _, _ => .error (if name = "help" && attached.isNone then .help else .void)

/-- Reads one word. -/
def read (vocabulary : Vocabulary) (r : Reader) (word : String) : Except Stop Reader :=
  let readPath := (r.given.addPath vocabulary word).map fun g => { r with given := g }
  if r.plain then readPath
  else match r.pending with
    | some k =>
      if isOption word then .error .void
      else (r.given.addValue k word).map fun g => { r with given := g, pending := none }
    | none =>
      if word = "--" then .ok { r with plain := true }
      else if !isOption word then readPath
      else match Text.afterHead? "--".toList word.toList with
        | some body => r.readOption vocabulary body
        | none => .error (if Text.startsWith word "-h" then .help else .void)

end Reader

/-- Reads the words of a command; none of its options may lack its value at the end. -/
def readWords (vocabulary : Vocabulary) (words : List String) : Except Stop Given :=
  match words.foldlM (Reader.read vocabulary) ⟨.empty, none, false⟩ with
  | .ok ⟨g, none, _⟩ => .ok g
  | .ok _ => .error .void
  | .error e => .error e

/-! ## Commands -/

/-- What a command scans. -/
def Given.target (g : Given) : Target :=
  ⟨g.path.getD ".", g.value? .config, g.switches.contains .gitignore⟩

/-- The form in which a command prints. -/
def Given.format (g : Given) : Format := ((g.value? .format).bind Format.ofName?).getD .text

/-- The command that was given. -/
def readCommand (vocabulary : Vocabulary) (words : List String) (build : Given → Command) :
    Request :=
  match readWords vocabulary words with
  | .ok g => .run (build g)
  | .error .help => .help
  | .error .void => .void

/-- What a command line asks for. -/
def Request.ofWords (words : List String) : Request :=
  match words with
  | [] => .void
  | "scan" :: rest =>
    readCommand ⟨true, [.format, .jobs, .config], [.gitignore, .summaries, .progress]⟩ rest fun g =>
      .scan g.target g.format ((g.value? .jobs).bind count?) (g.switches.contains .summaries)
        (g.switches.contains .progress)
  | "deps" :: rest =>
    readCommand ⟨true, [.format, .config], [.external, .gitignore]⟩ rest fun g =>
      .deps g.target g.format (g.switches.contains .external)
  | "languages" :: rest => readCommand ⟨false, [], []⟩ rest fun _ => .languages
  | ["help"] => .help
  | ["help", topic] =>
    if ["scan", "deps", "languages", "help"].contains topic then .help else .void
  | word :: _ =>
    if word = "--version" then .version
    else if word = "--help" then .help
    else if Text.startsWith word "-V" then .version
    else if Text.startsWith word "-h" then .help
    else .void

end Cli
end SourceAtlas
