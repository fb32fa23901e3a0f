import SourceAtlas.Files.Name

/-!
# File trees

The files that a scan looks at, as a value: regular files with their octets, directories with named
entries, and symbolic links with the path that they stand for.  A directory may refuse to be listed;
what stands in it can be reached by its path all the same.
-/

namespace SourceAtlas

/-- Why a path could not be used. -/
inductive FileError where
  | notFound
  | permissionDenied
  | notDirectory
  | isDirectory
  | nameTooLong
  | tooManyLinks
  | notText
  deriving DecidableEq, Repr

/-- The wording of a file error. -/
def FileError.message : FileError → String
  | notFound => "No such file or directory (os error 2)"
  | permissionDenied => "Permission denied (os error 13)"
  | notDirectory => "Not a directory (os error 20)"
  | isDirectory => "Is a directory (os error 21)"
  | nameTooLong => "File name too long (os error 36)"
  | tooManyLinks => "Too many levels of symbolic links (os error 40)"
  | notText => "stream did not contain valid UTF-8"

/-- A file, a directory or a link. -/
inductive FileTree where
  /-- A regular file. -/
  | file (octets : ByteArray)
  /-- A directory, with the error by which it refuses to be listed if it does. -/
  | dir (refusal : Option FileError) (entries : List (FileName × FileTree))
  /-- A symbolic link. -/
  | link (target : String)

namespace FileTree

/-- The empty directory. -/
def empty : FileTree := dir none []

/-- Whether a node is a directory. -/
def isDir : FileTree → Bool
  | dir .. => true
  | _ => false

/-- The entries of a directory; anything else has none. -/
def entries : FileTree → List (FileName × FileTree)
  | dir _ es => es
  | _ => []

/-- Why a node cannot be listed, if it cannot; only directories can. -/
def refusal? : FileTree → Option FileError
  | dir refusal _ => refusal
  | _ => some .notDirectory

/-- A directory with other entries. -/
def withEntries : FileTree → List (FileName × FileTree) → FileTree
  | dir refusal _, es => dir refusal es
  | _, es => dir none es

/-- The entry of a directory with a given name. -/
def child? (t : FileTree) (name : FileName) : Option FileTree :=
  (t.entries.find? (·.1 = name)).map (·.2)

/-- The node at a path of names, without following links. -/
def at? : FileTree → List FileName → Option FileTree
  | t, [] => some t
  | t, name :: rest => (t.child? name).bind (at? · rest)

/-- A directory with an entry added or replaced. -/
def setChild (t : FileTree) (name : FileName) (node : FileTree) : FileTree :=
  let es := t.entries
  t.withEntries <|
    if es.any (·.1 = name) then es.map fun e => if e.1 = name then (name, node) else e
    else es ++ [(name, node)]

/-- Puts a node at a path of names, making directories on the way. -/
def insert (t : FileTree) : List FileName → FileTree → FileTree
  | [], node => node
  | name :: rest, node => t.setChild name (insert ((t.child? name).getD empty) rest node)

/-- Makes a directory at a path of names, unless there is one already. -/
def insertDir (path : List FileName) (t : FileTree) : FileTree :=
  match t.at? path with
  | some (dir ..) => t
  | _ => t.insert path empty

/-- Removes what stands at a path of names. -/
def remove : List FileName → FileTree → FileTree
  | [], t => t
  | [name], t => t.withEntries (t.entries.filter (·.1 ≠ name))
  | name :: rest, t =>
    match t.child? name with
    | some node => t.setChild name (remove rest node)
    | none => t

end FileTree

end SourceAtlas
