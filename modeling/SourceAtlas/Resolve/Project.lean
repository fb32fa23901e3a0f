import SourceAtlas.Path.Basic

/-!
# The files of a project

What import resolution may ask about a project: whether a path is one of its files, and which file
comes first, in project order, among those that end in certain segments or lie in a certain
directory. Whatever these questions answer is a file of the project.
-/

namespace SourceAtlas

/-- The files of a project, in project order, and what its `go.mod` declares. -/
structure ProjectFiles where
  /-- The paths of the files. -/
  paths : List String
  /-- The module path of the project. -/
  goModule : Option String
  deriving DecidableEq, Repr

namespace ProjectFiles

/-- Whether a path is a file of the project. -/
def contains (files : ProjectFiles) (path : String) : Bool := files.paths.contains path

/-- The first of several candidate paths that is a file of the project. -/
def firstExisting (files : ProjectFiles) (candidates : List String) : Option String :=
  candidates.find? files.contains

/-- Whether a path is `tail`, or ends in a slash and `tail`. -/
def endsInSegments (path tail : String) : Bool := path == tail || Text.endsWith path ("/" ++ tail)

/-- The first file that ends in the segments `tail` (`first_with_suffix`). -/
def firstEndingIn (files : ProjectFiles) (tail : String) : Option String :=
  files.paths.find? (endsInSegments · tail)

/-- The only file that ends in the segments `tail` (`unique_with_suffix`); none when there are
several. -/
def onlyEndingIn (files : ProjectFiles) (tail : String) : Option String :=
  match files.paths.filter (endsInSegments · tail) with
  | [only] => some only
  | _ => none

/-- Whether a file lies directly in a directory and has one of the extensions. -/
def liesIn (dir : String) (extensions : List String) (path : String) : Bool :=
  Path.parent path == dir && Path.hasExtension path extensions

/-- The first file directly in a directory with one of the extensions, preferably one that does not
end in `disfavoured` (`first_in_dir`). -/
def firstIn (files : ProjectFiles) (dir : String) (extensions : List String)
    (disfavoured : String) : Option String :=
  let inside := files.paths.filter (liesIn dir extensions)
  (inside.find? (!Text.endsWith · disfavoured)).or inside.head?

/-- The first file with one of the extensions whose directory ends in the segments `tail`
(`first_in_dir_suffix`). -/
def firstInDirEndingIn (files : ProjectFiles) (tail : String) (extensions : List String) :
    Option String :=
  files.paths.find? fun path =>
    endsInSegments (Path.parent path) tail && Path.hasExtension path extensions

end ProjectFiles

end SourceAtlas
