import SourceAtlas.Resolve.Relative
import SourceAtlas.Text.Lines
import SourceAtlas.Text.Blank
import SourceAtlas.Text.Lowered

/-!
# Imports that name namespaces

Languages whose imports name a package or a namespace rather than a path.  The segments of the name
are looked for at the end of the paths of the project, so that the directories in which a project
keeps its sources need not be known.
-/

namespace SourceAtlas
namespace Resolve

/-! ## Java and Kotlin -/

/-- Extensions of files that hold types. -/
def jvmExtensions : List String := ["java", "kt", "kts"]

/-- The file of a type, of the type that encloses an imported member, or any Kotlin file of the
package that may hold a top-level function (`JvmImportResolver`); a wildcard stands for the first
file of a package. -/
def jvm (name : String) (files : ProjectFiles) : Option String :=
  match Text.beforeTail? ".*".toList name.toList with
  | some package =>
    files.firstInDirEndingIn (Text.replaceChar '.' '/' (String.ofList package)) jvmExtensions
  | none =>
    let path := Text.replaceChar '.' '/' name
    let parent := Path.parent path
    let stems := [path, parent].filter (· ≠ "")
    let types := (stems.flatMap fun stem => jvmExtensions.map fun ext => stem ++ "." ++ ext)
    (types.findSome? files.firstEndingIn).or
      (if Text.contains parent "/" then files.firstInDirEndingIn parent ["kt"] else none)

/-! ## C# -/

/-- A file with the name of the namespace, or any file of its directory (`CSharpImportResolver`);
the first segment is often the name of the project rather than of a directory, so it may be
missing. -/
def cSharp (name : String) (files : ProjectFiles) : Option String :=
  let full := Text.replaceChar '.' '/' name
  let shorter := match Text.cutFirst? '/' full.toList with
    | some (_, rest) => [String.ofList rest]
    | none => []
  (full :: shorter).findSome? fun candidate =>
    (files.firstEndingIn (candidate ++ ".cs")).or (files.firstInDirEndingIn candidate ["cs"])

/-! ## PHP -/

/-- A namespace follows the directories, perhaps with its first segment in small letters or
missing. -/
def phpNamespace (name : String) (files : ProjectFiles) : Option String :=
  let path := Text.replaceChar '\\' '/' (String.ofList (name.toList.dropWhile (· = '\\')))
  let variants := match Text.cutFirst? '/' path.toList with
    | some (vendor, rest) =>
      let rest := String.ofList rest
      [Text.lowered (String.ofList vendor) ++ "/" ++ rest, rest]
    | none => []
  (path :: variants).findSome? fun candidate => files.firstEndingIn (candidate ++ ".php")

/-- A namespace, or the path of an included file (`PhpImportResolver`). -/
def php (name importer : String) (files : ProjectFiles) : Option String :=
  if Text.endsWith name ".php" || Text.contains name "/" then
    files.firstExisting (phpIncludeCandidates name importer)
  else phpNamespace name files

/-! ## Swift -/

/-- The first file of the directory of a module (`SwiftImportResolver`). -/
def swift (name : String) (files : ProjectFiles) : Option String :=
  let module := String.ofList (name.toList.takeWhile (· ≠ '.'))
  files.firstInDirEndingIn ("Sources/" ++ module) ["swift"]

/-! ## Go -/

/-- The file that stands for a package: the first of its directory, preferably no test. -/
def goPackageFile (files : ProjectFiles) (dir : String) : Option String :=
  files.firstIn dir ["go"] "_test.go"

/-- The directory of an import inside the module `modulePath`. -/
def goPackageDir? (modulePath name : String) : Option String :=
  if name = modulePath then some ""
  else (Text.afterHead? (modulePath ++ "/").toList name.toList).map String.ofList

/-- All ends of a list, the longest first, without the empty one. -/
def nonemptyTails : List String → List (List String)
  | [] => []
  | s :: rest => (s :: rest) :: nonemptyTails rest

/-- A package below the module of the project (`GoImportResolver`); without a declared module, the
longest end of the import that is a directory with a file of the language. -/
def go (name : String) (files : ProjectFiles) : Option String :=
  match files.goModule with
  | some modulePath => (goPackageDir? modulePath name).bind (goPackageFile files)
  | none =>
    let segments := Path.segments name
    let dirs := ((nonemptyTails segments).map Path.ofSegments).takeWhile fun dir =>
      Text.contains dir "/" || segments.length = 1
    dirs.findSome? (goPackageFile files)

/-- The module path that the text of a `go.mod` declares (`parse_go_module`). -/
def goModule? (content : String) : Option String :=
  let lines := (Text.lines content.toList).map Text.trim
  match lines.findSome? (Text.afterHead? "module ".toList) with
  | none => none
  | some rest =>
    let unquote (s : List Char) : List Char := s.dropWhile (· = '"')
    let path := (unquote (unquote (Text.trim rest)).reverse).reverse
    if path.isEmpty then none else some (String.ofList path)

end Resolve
end SourceAtlas
