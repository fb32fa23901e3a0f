import SourceAtlas.Architecture
import SourceAtlas.DesignPattern
import SourceAtlas.Graph
import SourceAtlas.Model.ImportRoot
import SourceAtlas.Model.Skip
import SourceAtlas.Resolve.Family
import SourceAtlas.Summary.RuleBased

/-!
# Project models

The result of a scan: the records of all files, in project order, with the graph of their imports,
the files that were skipped, and totals over the project.
-/

namespace SourceAtlas

namespace Graph

/-- The edges of one file: one for every import, in order. -/
def edgesOf (project : ProjectFiles) (f : SourceFile) : List Edge :=
  f.imports.map fun name =>
    ⟨f.path, match resolveImport f.language name f.path project with
      | some path => .internal path
      | none => .external, name⟩

/-- The graph of the imports of some files (`build_dependency_graph`); `goMod` is the text of the
`go.mod` in the root. -/
def ofFiles (goMod : Option String) (files : List SourceFile) : Graph :=
  let project : ProjectFiles := ⟨files.map (·.path), goMod.bind Resolve.goModule?⟩
  ⟨project.paths, files.flatMap (edgesOf project)⟩

end Graph

/-- The result of a scan. -/
structure ProjectModel where
  /-- The root of the project. -/
  root : String
  /-- The records of the files, in project order. -/
  files : List SourceFile
  /-- The number of lines of all files. -/
  totalLines : Nat
  /-- How the project is built. -/
  architecture : Architecture
  /-- The imports between the files. -/
  graph : Graph
  /-- The paths of the build files, sorted. -/
  buildFiles : List String
  /-- The files without a record, sorted by path. -/
  skipped : List SkippedFile
  deriving DecidableEq

/-- Libraries that are listed before all others. -/
def wellKnownLibraries : List String :=
  ["flask", "django", "fastapi", "streamlit", "pandas", "numpy", "matplotlib", "sklearn",
   "tensorflow", "torch", "requests", "react", "vue", "express", "spring", "tokio", "serde"]

/-- Strings in ascending order, each once. -/
def sortedSet (ss : List String) : List String := ss.eraseDups.mergeSort (· ≤ ·)

namespace ProjectModel

/-- The sum of a measure over files. -/
def total (measure : SourceFile → Nat) : List SourceFile → Nat
  | [] => 0
  | f :: rest => measure f + total measure rest

/-- Puts the results of a scan together (`ProjectModel.assemble`). -/
def assemble (root : String) (files : List SourceFile) (graph : Graph)
    (skipped : List SkippedFile) : ProjectModel where
  root := root
  files := files
  totalLines := total (·.lineCount) files
  architecture :=
    Architecture.classify (total (·.classes.length) files) (total (·.topLevelFunctions) files)
  graph := graph
  buildFiles := sortedSet ((files.filter (·.isBuildFile)).map (·.path))
  skipped := skipped

/-- The record of the file with a given path (`ProjectModel.file`). -/
def file? (m : ProjectModel) (path : String) : Option SourceFile := m.files.find? (·.path = path)

/-- The number of types in all files (`class_count`). -/
def classCount (m : ProjectModel) : Nat := total (·.classes.length) m.files

/-- The number of functions in all files (`function_count`). -/
def functionCount (m : ProjectModel) : Nat := total (·.functions.length) m.files

/-- The number of functions outside any type or function body (`top_level_function_count`). -/
def topLevelFunctionCount (m : ProjectModel) : Nat := total (·.topLevelFunctions) m.files

/-- The numbers of files and lines in a language. -/
def languageTotals (m : ProjectModel) (l : Language) : Nat × Nat :=
  let files := m.files.filter (·.language = l)
  (files.length, total (·.lineCount) files)

/-- The languages that occur, in listing order, with their numbers of files and lines
(`language_breakdown`). -/
def languageBreakdown (m : ProjectModel) : List (Language × Nat × Nat) :=
  (Language.all.filter fun l => m.files.any (·.language = l)).map fun l => (l, m.languageTotals l)

/-- The packages that the imports leaving the project belong to (`external_dependencies`):
well-known libraries first, each group in ascending order. -/
def externalDependencies (m : ProjectModel) : List String :=
  let roots := sortedSet ((m.graph.externalEdges.filterMap (importRoot? ·.label)).filter
    (!trivialImports.contains ·))
  let isKnown (root : String) : Bool := wellKnownLibraries.contains (Text.asciiLowered root)
  roots.filter isKnown ++ roots.filter (!isKnown ·)

/-- The design patterns that show in the names of types (`design_patterns`). -/
def designPatterns (m : ProjectModel) : List DesignPattern :=
  DesignPattern.detect (m.files.flatMap (·.classes))

end ProjectModel

end SourceAtlas
