import SourceAtlas.Config
import SourceAtlas.Model.Project
import SourceAtlas.Scan.Outcome

/-!
# Scans

From a root to the model of its project, in two phases.  The first finds the files; the second
analyses each of them and puts the outcomes together.  Between the phases the number of files is
known and the progress has been started, which is the earliest moment at which a scan that is going
on can be called off.

The order of the outcomes is that of the files.  No model is made of a part of them: a scan that was
called off before one of its files has none.
-/

namespace SourceAtlas

/-- How a scan is made (`ProjectModelBuilder`). -/
structure ScanOptions where
  /-- What it leaves out. -/
  rules : IgnoreRules
  /-- Whether gitignore files count. -/
  gitignore : Bool
  /-- The number of octets beyond which a file is skipped. -/
  maxFileBytes : Option Nat
  deriving DecidableEq, Repr

namespace ScanOptions

/-- A scan with given rules and nothing else set. -/
def ofRules (rules : IgnoreRules) : ScanOptions := ⟨rules, false, none⟩

/-- The scan that a configuration asks for (`ProjectModelBuilder.from_config`); its globs have to be
well-formed. -/
def ofConfig (c : ScanConfig) : Except Error ScanOptions :=
  c.ignore.rules.map fun rules => ⟨rules, c.ignore.respectGitignore, c.scan.maxFileBytes⟩

/-- What the walk of a scan leaves out. -/
def walk (o : ScanOptions) : WalkOptions := ⟨o.rules, o.gitignore⟩

end ScanOptions

/-- A scan whose files have been found. -/
structure Scan where
  /-- The full path of the root. -/
  root : String
  /-- The files, in project order. -/
  files : List WalkedFile
  /-- What the walk could not visit. -/
  unvisited : List SkippedFile
  /-- The text of the `go.mod` in the root. -/
  goMod : Option String
  /-- The number of octets beyond which a file is skipped. -/
  maxFileBytes : Option Nat

/-- How a scan ended. -/
structure ScanResult where
  /-- The model, or why there is none. -/
  model : Except Error ProjectModel
  /-- The progress at the end. -/
  progress : Progress
  /-- What happened on the way. -/
  events : List Event

namespace Scan

/-! ## Finding the files -/

/-- Where a root leads (`check_root`): to a directory that can be listed and has a full path. -/
def checkRoot (fs : FileSystem) (root : String) : Except Error Place :=
  match fs.locate root with
  | .error _ => .error (.rootNotFound root)
  | .ok place =>
    match place.node.refusal? with
    | some e => .error (.rootNotReadable root e.message)
    | none =>
      if FileSystem.pathLimit < (fs.fullPath place.names).utf8ByteSize then
        .error (.rootNotReadable root FileError.nameTooLong.message)
      else .ok place

/-- The files of a scan, before any of them is read. -/
def ofPlace (fs : FileSystem) (options : ScanOptions) (place : Place) : Scan :=
  let walked := fs.walk options.walk place
  { root := fs.fullPath place.names
    files := walked.files
    unvisited := walked.skipped
    goMod := (fs.readText (fs.fullPath (place.names ++ [↑"go.mod"]))).toOption
    maxFileBytes := options.maxFileBytes }

/-- Finds the files below a root. -/
def find (fs : FileSystem) (options : ScanOptions) (root : String) (p : Progress) :
    Except Error Scan :=
  match checkRoot fs root with
  | .error e => .error e
  | .ok place => if p.isCancelled then .error .cancelled else .ok (ofPlace fs options place)

/-- The progress at the start of the second phase. -/
def start (s : Scan) (p : Progress) : Progress := p.start s.files.length

/-! ## Analysing them -/

/-- Analyses files one after the other, and stops before a file when the scan has been called
off. -/
def analyseAll (limit : Option Nat) :
    Progress → List WalkedFile → Except Error (List Outcome) × Progress
  | p, [] => (.ok [], p)
  | p, file :: rest =>
    if p.isCancelled then (.error .cancelled, p)
    else
      let outcome := Outcome.ofFile limit file
      let (later, p') := analyseAll limit (outcome.count p) rest
      (later.map (outcome :: ·), p')

/-- The model that the outcomes of all files make. -/
def assemble (s : Scan) (outcomes : List Outcome) : ProjectModel :=
  let files := outcomes.filterMap Outcome.record?
  let skipped := (s.unvisited ++ outcomes.filterMap Outcome.skip?).mergeSort
    fun a b => a.path ≤ b.path
  ProjectModel.assemble s.root files (Graph.ofFiles s.goMod files) skipped

/-- The events of the first phase. -/
def walkEvents (s : Scan) : List Event :=
  s.unvisited.map .unvisited ++ [.found s.files.length s.root]

/-- The events that close a scan. -/
def modelEvents (m : ProjectModel) : List Event :=
  [.linked m.graph.internalEdges.length m.graph.externalEdges.length, .modelled m]

/-- The second phase, from a progress that has been started. -/
def finish (s : Scan) (p : Progress) : ScanResult :=
  match analyseAll s.maxFileBytes p s.files with
  | (.error e, p') => ⟨.error e, p'.finish, s.walkEvents⟩
  | (.ok outcomes, p') =>
    let m := s.assemble outcomes
    ⟨.ok m, p'.finish, s.walkEvents ++ outcomes.map Outcome.event ++ modelEvents m⟩

/-- Both phases, one after the other (`ProjectModelBuilder.build`). -/
def run (fs : FileSystem) (options : ScanOptions) (root : String) (p : Progress) : ScanResult :=
  match find fs options root p with
  | .error e => ⟨.error e, p, []⟩
  | .ok s => s.finish (s.start p)

end Scan

end SourceAtlas
