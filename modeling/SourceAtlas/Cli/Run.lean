import SourceAtlas.Cli.Arguments
import SourceAtlas.Cli.Report
import SourceAtlas.Scan.Build
import SourceAtlas.Summary.Transport

/-!
# Running commands

What a command line does in given surroundings: the text that it prints, the failure that it ends
in, and the events on the way.
-/

namespace SourceAtlas
namespace Cli

/-- What a command finds around it. -/
structure Surroundings where
  /-- The files. -/
  files : FileSystem
  /-- The environment variables. -/
  env : Environment
  /-- The means to ask for summaries. -/
  backend : Backend

/-- An error, with what was being done when it arose. -/
structure Failure where
  /-- What was being done. -/
  context : Option String
  /-- The error. -/
  error : Error
  deriving DecidableEq, Repr

/-- How a command line ended. -/
structure Ending where
  /-- What it printed. -/
  output : String
  /-- Why it failed. -/
  failure : Option Failure
  /-- What happened on the way. -/
  events : List Event

/-! ## Failures -/

namespace Failure

/-- The texts of a failure, from the outermost to the innermost cause. -/
def chain (f : Failure) : List String :=
  f.context.toList ++ f.error.message :: f.error.innerCause?.toList

/-- A cause after its mark; further lines of it are indented alike. -/
def causeLines (mark indent cause : String) : String :=
  mark ++ Text.joinWith ("\n" ++ indent) ((cause.toList.splitOn '\n').map String.ofList)

/-- The causes of a failure below their title: one alone, or several with numbers. -/
def causes : List String → String
  | [] => ""
  | [cause] => "\n\nCaused by:\n" ++ causeLines "    " "    " cause
  | many =>
    "\n\nCaused by:" ++ String.join (many.zipIdx.map fun (cause, i) =>
      "\n" ++ causeLines (padLeft 5 (toString i) ++ ": ") "       " cause)

/-- The report of a failure. -/
def report (f : Failure) : String :=
  match f.chain with
  | [] => ""
  | first :: rest => "Error: " ++ first ++ causes rest ++ "\n"

end Failure

/-! ## Commands -/

/-- The configuration for a target (`load_config`): the file that was named, or the one in the
root. -/
def configFor (around : Surroundings) (target : Target) : Except Failure ScanConfig :=
  match target.config with
  | some path =>
    (ScanConfig.load around.files path).mapError fun e => ⟨some s!"Failed to load config {path}", e⟩
  | none => (ScanConfig.discover around.files target.path).mapError fun e => ⟨none, e⟩

/-- Scans a target (`run_scan`). -/
def scanTarget (around : Surroundings) (config : ScanConfig) (target : Target) (bar : Bool) :
    Except Failure (ProjectModel × List Event) := do
  let options ← (ScanOptions.ofConfig config).mapError fun e => ⟨none, e⟩
  let options := { options with gitignore := options.gitignore || target.gitignore }
  let progress := if bar then Progress.fresh.attachBar else Progress.fresh
  let result := Scan.run around.files options target.path progress
  let model ← result.model.mapError fun e => ⟨some s!"Failed to scan {target.path}", e⟩
  return (model, result.events)

/-- The summaries of the files of a model, sorted by path, and the events on the way. -/
def summarizeAll (s : Summarizer) (m : ProjectModel) :
    Except Error (List (String × String) × List Event) := do
  let runs := m.files.map fun f => (f.path, s.run f)
  let texts ← runs.mapM fun (path, result, _) => result.map (path, ·)
  let events := runs.flatMap fun (_, _, notes) => notes.map .fellBack
  return (texts.mergeSort fun a b => a.1 ≤ b.1, events)

/-- Prints the model of a project (`scan`). -/
def runScan (around : Surroundings) (target : Target) (format : Format) (summaries bar : Bool) :
    Except Failure (String × List Event) := do
  let config ← configFor around target
  let (model, events) ← scanTarget around config target bar
  let (texts, more) ←
    if summaries then
      ((config.summarizer.summarizer around.env around.backend).bind
        (summarizeAll · model)).mapError fun e => ⟨none, e⟩
    else pure ([], [])
  return (match format with
    | .json => modelJson model texts
    | .text => modelText model texts, events ++ more)

/-- Prints the imports of a project (`deps`). -/
def runDeps (around : Surroundings) (target : Target) (format : Format) (externalOnly : Bool) :
    Except Failure (String × List Event) := do
  let config ← configFor around target
  let (model, events) ← scanTarget around config target false
  return (match externalOnly, format with
    | true, .json => packagesJson model.externalDependencies
    | true, .text => packagesText model.externalDependencies
    | false, .json => graphJson model.graph
    | false, .text => graphText model.graph, events)

/-- Runs a command. -/
def Command.run (around : Surroundings) : Command → Ending
  | .languages => ⟨languagesText, none, []⟩
  | .scan target format _ summaries progress =>
    ending (runScan around target format summaries progress)
  | .deps target format externalOnly => ending (runDeps around target format externalOnly)
where
  /-- The ending of a command that may fail. -/
  ending : Except Failure (String × List Event) → Ending
    | .ok (output, events) => ⟨output, none, events⟩
    | .error f => ⟨"", some f, []⟩

/-- The name and the version of the program. -/
def versionLine : String := "code-doc 0.1.0"

/-- How the program is called. -/
def usage : String :=
  ofLines
    ["Builds a structural model of a source tree: languages, symbols, imports, build files and " ++
       "dependencies",
     "",
     "Usage: code-doc <COMMAND>",
     "",
     "Commands:",
     "  scan       Scan a directory and print the project model",
     "             [PATH] [--format text|json] [--jobs N] [--config FILE] [--gitignore]",
     "             [--summaries] [--progress]",
     "  deps       Print file-to-file import edges",
     "             [PATH] [--format text|json] [--external] [--config FILE] [--gitignore]",
     "  languages  List supported languages and their extensions",
     "  help       Print this message",
     "",
     "Options:",
     "  -h, --help     Print help",
     "  -V, --version  Print version"]

end Cli
end SourceAtlas
