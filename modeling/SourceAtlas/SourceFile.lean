import SourceAtlas.BuildFile
import SourceAtlas.Extract.Outline
import SourceAtlas.Path.Basic
import SourceAtlas.Purpose.Classify

/-!
# Source files

The record of one scanned file: its language, its outline, what it is for, and whether it is a build
file.  Everything in the record follows from the path and the text of the file.
-/

namespace SourceAtlas

/-- The record of one scanned file. -/
structure SourceFile where
  /-- The path below the root of the project. -/
  path : String
  /-- The language it is written in. -/
  language : Language
  /-- The number of its lines. -/
  lineCount : Nat
  /-- The functions it declares. -/
  functions : List String
  /-- How many functions stand outside any type or function body. -/
  topLevelFunctions : Nat
  /-- The types it declares. -/
  classes : List String
  /-- The modules it imports, as written. -/
  imports : List String
  /-- What it is for. -/
  purposes : Purposes
  /-- Whether it is a build file. -/
  isBuildFile : Bool
  deriving DecidableEq

/-- The numbers that are shown for one file. -/
structure FileMetrics where
  lines : Nat
  functions : Nat
  classes : Nat
  imports : Nat
  deriving DecidableEq, Repr

namespace SourceFile

/-- The record of a file with the given path and text (`analyze_source`). -/
def analyze (path text : String) : SourceFile :=
  let fileName := Path.lastSegment path
  let language := Registry.detect fileName
  let outline := Outline.extract language text.toList
  { path := path
    language := language
    lineCount := outline.lineCount
    functions := outline.functions
    topLevelFunctions := outline.topLevelFunctions
    classes := outline.classes
    imports := outline.imports
    purposes := Purpose.classify
      { path := path, functions := outline.functions, classes := outline.classes,
        imports := outline.imports, text := text }
    isBuildFile := BuildFile.isBuildFile fileName }

/-- The name of the file, without its directories. -/
def fileName (f : SourceFile) : String := Path.lastSegment f.path

/-- The main purpose of the file. -/
def mainPurpose (f : SourceFile) : Purpose := f.purposes.main

/-- The numbers that are shown for the file. -/
def metrics (f : SourceFile) : FileMetrics :=
  ⟨f.lineCount, f.functions.length, f.classes.length, f.imports.length⟩

end SourceFile

end SourceAtlas
