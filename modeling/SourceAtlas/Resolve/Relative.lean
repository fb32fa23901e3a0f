import SourceAtlas.Resolve.Project

/-!
# Imports that spell out paths

Languages whose imports are paths, or can be turned into a few candidate paths.  For each of them
the candidates follow from the import and the importing file alone, in order of preference, and the
first one that is a file of the project is the answer.
-/

namespace SourceAtlas
namespace Resolve

/-! ## Python -/

/-- The directory `n` levels above a directory. -/
def ancestor? : Nat → String → Option String
  | 0, dir => some dir
  | n + 1, dir => (Path.parentOfDir? dir).bind (ancestor? n)

/-- The files that a module path may stand for below a directory (`python_module_file`): a file, or
the file of a package. -/
def pythonModuleCandidates (base modulePath : String) : List String :=
  match Path.resolve? base modulePath with
  | none => []
  | some stem =>
    (if modulePath = "" then [] else [stem ++ ".py"]) ++ [Path.join stem "__init__.py"]

/-- Candidates for a dotted import (`PythonImportResolver`): leading dots count levels up from the
importing file; without them, the directory of the importing file, the root and `src` are tried. -/
def pythonCandidates (name importer : String) : List String :=
  let chars := name.toList
  let dots := (chars.takeWhile (· = '.')).length
  let modulePath := Text.replaceChar '.' '/' (String.ofList (chars.drop dots))
  let here := Path.parent importer
  if 0 < dots then
    match ancestor? (dots - 1) here with
    | none => []
    | some base => pythonModuleCandidates base modulePath
  else if modulePath = "" then []
  else [here, "", "src"].flatMap (pythonModuleCandidates · modulePath)

/-! ## JavaScript and TypeScript -/

/-- Extensions that an import may leave out, in order of preference. -/
def scriptExtensions : List String :=
  ["ts", "tsx", "d.ts", "js", "jsx", "mjs", "cjs", "mts", "cts"]

/-- Whether an import is relative; any other names a package. -/
def isRelativeScript (name : String) : Bool :=
  Text.startsWith name "./" || Text.startsWith name "../" || name = "." || name = ".."

/-- Candidates for a relative import (`ScriptImportResolver`): the path itself, the source of a
compiled file, the path with an extension, and the index of a directory. -/
def scriptCandidates (name importer : String) : List String :=
  if !isRelativeScript name then []
  else match Path.resolve? (Path.parent importer) name with
    | none => []
    | some target =>
      let sources := match Text.beforeTail? ".js".toList target.toList with
        | some stem => ["ts", "tsx"].map fun ext => String.ofList stem ++ "." ++ ext
        | none => []
      [target] ++ sources ++ scriptExtensions.map (fun ext => target ++ "." ++ ext) ++
        scriptExtensions.map (fun ext => Path.join target ("index." ++ ext))

/-! ## C and C++ -/

/-- Candidates for an included header. -/
def nativeCandidates (name importer : String) : List String :=
  [Path.parent importer, "", "include", "src"].filterMap (Path.resolve? · name)

/-- The text without any number of `./` at its front. -/
def dropHere : List Char → List Char
  | '.' :: '/' :: rest => dropHere rest
  | s => s

/-- An included header (`NativeImportResolver`): one of the candidates, or else the only file that
ends in its segments. -/
def native (name importer : String) (files : ProjectFiles) : Option String :=
  (files.firstExisting (nativeCandidates name importer)).or
    (files.onlyEndingIn (String.ofList (dropHere name.toList)))

/-! ## Ruby -/

/-- Candidates for a required file (`RubyImportResolver`). -/
def rubyCandidates (name importer : String) : List String :=
  let file := if Text.endsWith name ".rb" then name else name ++ ".rb"
  [Path.parent importer, "", "lib"].filterMap (Path.resolve? · file)

/-! ## PHP -/

/-- Candidates for an included file. -/
def phpIncludeCandidates (name importer : String) : List String :=
  let relative := String.ofList (name.toList.dropWhile (· = '/'))
  [Path.parent importer, ""].filterMap (Path.resolve? · relative)

end Resolve
end SourceAtlas
