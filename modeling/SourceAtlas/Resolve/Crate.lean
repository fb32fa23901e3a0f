import SourceAtlas.Resolve.Project

/-!
# Module paths inside a crate

In Rust an import is a path of modules, from the root of the crate, from the importing module or
from a module above it.  The file of the importing module tells where the sources of the crate lie
and which module it is; the candidates are then the files of ever shorter module paths.
-/

namespace SourceAtlas
namespace Resolve

/-- Where a file stands in its crate. -/
structure CratePlace where
  /-- The directory of the sources of the crate. -/
  sources : String
  /-- The path of the module inside the crate. -/
  modulePath : List String
  deriving DecidableEq, Repr

/-- Splits a path after the last place where `src/` stands, if that is a directory. -/
def splitSources (path : String) : String × String :=
  match Text.cutAtLast? "src/".toList path.toList with
  | some (before, after) =>
    if before.isEmpty || before.getLast? = some '/' then
      (String.ofList (before ++ "src".toList), String.ofList after)
    else ("", path)
  | none => ("", path)

/-- The name of a module's file without its extension. -/
def moduleStem (name : String) : String :=
  match Text.beforeTail? ".rs".toList name.toList with
  | some stem => String.ofList stem
  | none => name

/-- The place of a file (`rust_module_of`): `mod` stands for its directory, and `lib` or `main` at
the top for the root. -/
def cratePlace (path : String) : CratePlace :=
  let (sources, inner) := splitSources path
  let segs := Path.segments inner
  let dirs := segs.dropLast
  let stem := moduleStem (segs.getLast?.getD "")
  let isRoot := dirs.isEmpty && (stem = "lib" || stem = "main")
  ⟨sources, if stem = "mod" || isRoot then dirs else dirs ++ [stem]⟩

/-- The files that a module may live in (`rust_module_file`). -/
def moduleFiles (sources : String) (modulePath : List String) : List String :=
  match modulePath with
  | [] => ["lib.rs", "main.rs"].map (Path.join sources)
  | _ =>
    let path := Path.join sources (Path.ofSegments modulePath)
    [path ++ ".rs", Path.join path "mod.rs"]

/-- The module that an import starts from, and the segments that remain. -/
def importBase? (name : String) (importer : List String) : Option (List String × List String) :=
  let segs := (Text.splitDoubleColon (Text.dropDoubleColons name.toList)).map String.ofList
  match segs with
  | "crate" :: rest => some ([], rest)
  | "self" :: rest => some (importer, rest)
  | "super" :: _ =>
    let ups := (segs.takeWhile (· = "super")).length
    some (importer.take (importer.length - ups), segs.drop ups)
  | _ => if importer.isEmpty && !Text.startsWith name "::" then some ([], segs) else none

/-- Candidates for an import (`RustImportResolver`): the longest module path first, the module it
starts from last.  An import that names no starting module at all does not stand for the root of the
crate. -/
def crateCandidates (name importer : String) : List String :=
  let place := cratePlace importer
  match importBase? name place.modulePath with
  | none => []
  | some (base, segs) =>
    let bare := base.isEmpty && segs.length = (Text.splitDoubleColon name.toList).length
    let longer := (List.range segs.length).reverse.flatMap fun k =>
      moduleFiles place.sources (base ++ segs.take (k + 1))
    longer ++ if bare then [] else moduleFiles place.sources base

end Resolve
end SourceAtlas
