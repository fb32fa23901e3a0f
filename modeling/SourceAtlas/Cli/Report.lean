import SourceAtlas.Json.Printer
import SourceAtlas.Model.Record

/-!
# Reports

How models, imports and languages are printed: as lines of text, or as JSON with one item a line.
-/

namespace SourceAtlas
namespace Cli

/-! ## Lines -/

/-- A text filled up with blanks at its end. -/
def padRight (width : Nat) (s : String) : String :=
  s ++ String.ofList (List.replicate (width - s.length) ' ')

/-- A text filled up with blanks at its front. -/
def padLeft (width : Nat) (s : String) : String :=
  String.ofList (List.replicate (width - s.length) ' ') ++ s

/-- Lines put one below the other. -/
def ofLines (ls : List String) : String := String.join (ls.map (· ++ "\n"))

/-- A title after an empty line, with lines below it. -/
def titled (title : String) (ls : List String) : List String := ["", title] ++ ls

/-- The same, unless there are no lines. -/
def titledUnlessEmpty (title : String) (ls : List String) : List String :=
  if ls.isEmpty then [] else titled title ls

/-! ## Models -/

/-- The numbers of files and lines in a language. -/
def languageLine (l : Language) (files lines : Nat) : String :=
  "  " ++ padRight 12 l.displayName ++ " " ++ padLeft 5 (toString files) ++ " files " ++
    padLeft 8 (toString lines) ++ " lines"

/-- A build file, with its ecosystem and the command that installs from it. -/
def buildFileLine (path : String) : String :=
  let file := BuildFile.lookup? (Path.lastSegment path)
  let ecosystem := (file.map (·.ecosystem.tag)).getD "-"
  s!"  {path} [{ecosystem}]" ++
    match file.bind (·.command) with
    | some command => "  " ++ command
    | none => ""

/-- A file, with its numbers and its main purpose. -/
def fileLine (f : SourceFile) : String :=
  s!"  {f.path}  [{f.language.tag}] {f.lineCount} lines, {f.classes.length} classes, " ++
    s!"{f.functions.length} functions, {f.imports.length} imports, {f.mainPurpose.tag}"

/-- A line with a list, unless the list is empty. -/
def listLine (before : List String) (label : String) (items : List String) : List String :=
  if items.isEmpty then [] else before ++ [label ++ Text.joinWith ", " items]

/-- The lines on a model. -/
def modelLines (m : ProjectModel) : List String :=
  ["Project: " ++ m.root,
   s!"Files: {m.files.length}  Lines: {m.totalLines}  Classes: {m.classCount}  " ++
     s!"Functions: {m.functionCount}",
   "Architecture: " ++ m.architecture.tag] ++
  listLine [] "Design patterns: " (m.designPatterns.map (·.displayName)) ++
  titled "Languages:"
    (m.languageBreakdown.map fun (l, files, lines) => languageLine l files lines) ++
  titledUnlessEmpty "Build artifacts:" (m.buildFiles.map buildFileLine) ++
  listLine [""] "External dependencies: " m.externalDependencies ++
  titled "Files:" (m.files.map fileLine) ++
  titledUnlessEmpty "Skipped:" (m.skipped.map fun s => s!"  {s.path}: " ++ s.reason.message)

/-- The lines of a summary below the path of its file. -/
def summaryLines (path text : String) : List String :=
  ("  " ++ path) :: (Text.lines text.toList).map fun l => "    " ++ String.ofList l

/-- A model and summaries of its files, as text (`print_model`). -/
def modelText (m : ProjectModel) (summaries : List (String × String)) : String :=
  ofLines (modelLines m ++
    titledUnlessEmpty "Summaries:" (summaries.flatMap fun (path, text) => summaryLines path text))

/-- A model and summaries of its files, as JSON; summaries are left out if there are none. -/
def modelJson (m : ProjectModel) (summaries : List (String × String)) : String :=
  let more := if summaries.isEmpty then []
    else [("summaries", Json.obj (summaries.map fun (path, text) => (path, .str text)))]
  ofLines [(Json.obj (Record.modelFields m ++ more)).pretty]

/-! ## Imports -/

/-- An edge of the graph. -/
def edgeLine (e : Edge) : String :=
  s!"{e.source} -> " ++ e.target.path?.getD "<external>" ++ s!" ({e.label})"

/-- A graph as text. -/
def graphText (g : Graph) : String :=
  ofLines (g.edges.map edgeLine ++
    ["", s!"{g.internalEdges.length} internal edges, {g.externalEdges.length} external edges"])

/-- A graph as JSON. -/
def graphJson (g : Graph) : String := ofLines [(Record.ofGraph g).pretty]

/-- Package names as text. -/
def packagesText (names : List String) : String :=
  ofLines (if names.isEmpty then ["No external dependencies detected."] else names)

/-- Package names as JSON. -/
def packagesJson (names : List String) : String := ofLines [(Json.strings names).pretty]

/-! ## Languages -/

/-- The languages, with what is done for them and their file extensions. -/
def languagesText : String :=
  ofLines (Language.supported.map fun l =>
    let extraction := if (Registry.rule? l).isSome then "structural" else "line count only"
    padRight 12 l.displayName ++ " " ++ padRight 16 extraction ++ " " ++
      Text.joinWith ", " (Registry.extensionsOf l))

end Cli
end SourceAtlas
