import SourceAtlas.Model.Project
import SourceAtlas.Summary.Summarizer

/-!
# Events

What a run notes down while it works.  Every event has a level, and a threshold lets events of its
own level and of graver ones through.
-/

namespace SourceAtlas

/-- How grave an event is. -/
inductive Level where
  | error | warn | info | debug
  deriving DecidableEq, Repr

namespace Level

/-- The position among the levels, the gravest first. -/
def rank : Level → Nat
  | error => 0
  | warn => 1
  | info => 2
  | debug => 3

/-- The spelling of a level in a log. -/
def label : Level → String
  | error => "ERROR"
  | warn => "WARN"
  | info => "INFO"
  | debug => "DEBUG"

/-- The level that a log directive asks for: `code_doc=` and the name of the level. -/
def ofDirective? : String → Option Level
  | "code_doc=error" => some error
  | "code_doc=warn" => some warn
  | "code_doc=info" => some info
  | "code_doc=debug" => some debug
  | _ => none

/-- Whether a threshold lets events of a level through. -/
def shows (threshold level : Level) : Bool := level.rank ≤ threshold.rank

end Level

/-- Something that happened in a run. -/
inductive Event where
  /-- A walk could not visit something. -/
  | unvisited (s : SkippedFile)
  /-- The files below a root were found. -/
  | found (files : Nat) (root : String)
  /-- A file was analysed. -/
  | analysed (f : SourceFile)
  /-- A file was skipped. -/
  | skipped (s : SkippedFile)
  /-- The imports were resolved. -/
  | linked (internal external : Nat)
  /-- The model was finished. -/
  | modelled (m : ProjectModel)
  /-- A summary came from the fallback. -/
  | fellBack (note : FallbackNote)

namespace Event

/-- The level of an event. -/
def level : Event → Level
  | unvisited _ => .warn
  | found .. => .info
  | analysed _ => .debug
  | skipped _ => .warn
  | linked .. => .debug
  | modelled _ => .info
  | fellBack _ => .warn

/-- The wording of an event. -/
def message : Event → String
  | unvisited s => s!"Cannot walk {s.path}: " ++ s.reason.detail
  | found files root => s!"Found {files} files to analyze in {root}"
  | analysed f =>
    s!"{f.path}: {f.language.tag} ({f.lineCount} lines, {f.classes.length} classes, " ++
      s!"{f.functions.length} functions, {f.imports.length} imports)"
  | skipped s => s!"Skipping {s.path}: " ++ s.reason.message
  | linked internal external =>
    s!"Dependency graph: {internal} internal edges, {external} external edges"
  | modelled m =>
    s!"Analyzed {m.files.length} files ({m.totalLines} lines), skipped {m.skipped.length}, " ++
      s!"architecture: {m.architecture.tag}"
  | fellBack note => note.message

/-- The line of an event in a log. -/
def line (e : Event) : String := e.level.label ++ " " ++ e.message

end Event

end SourceAtlas
