import SourceAtlas.Files.Tree
import SourceAtlas.Text.Utf8

/-!
# File systems

A file tree with a name for its top and a working directory.  A path leads from the working
directory, or from the top if it begins with the name of the top; links are followed.  A chain of
too many links is an error, and so is a path of too many octets.
-/

namespace SourceAtlas

/-- A file tree that paths can be looked up in. -/
structure FileSystem where
  /-- What the paths to the top begin with. -/
  top : String
  /-- The files. -/
  tree : FileTree
  /-- The names on the way from the top to the working directory. -/
  workingDir : List FileName

/-- Where a path leads. -/
structure Place where
  /-- The names on the way from the top, without links. -/
  names : List FileName
  /-- What stands there. -/
  node : FileTree

/-- The octets of what stands at a place. -/
def Place.octets (place : Place) : Except FileError ByteArray :=
  match place.node with
  | .file octets => .ok octets
  | .dir .. => .error .isDirectory
  | .link _ => .error .notFound

namespace FileSystem

/-- How many links a path may lead through. -/
def linkLimit : Nat := 40

/-- How many octets a path may have. -/
def pathLimit : Nat := 4095

/-- The segments of a path, as names. -/
def segmentsOf (path : String) : List FileName := (Path.segments path).map FileName.ofString

/-- The segments of a path and the place from which it leads, `here` being where it is met. -/
def startOf (fs : FileSystem) (here : List FileName) (path : String) :
    Option (List FileName × List FileName) :=
  if fs.top ≠ "" && path = fs.top then some ([], [])
  else match Text.afterHead? (fs.top ++ "/").toList path.toList with
    | some rest => some ([], segmentsOf (String.ofList rest))
    | none => if Text.startsWith path "/" then none else some (here, segmentsOf path)

/-- Follows segments from a place; `links` is how many links may still be followed, and `fuel`
bounds the number of steps. -/
def follow (fs : FileSystem) :
    Nat → Nat → List FileName → List FileName → Except FileError Place
  | 0, _, _, _ => .error .tooManyLinks
  | fuel + 1, links, here, segs =>
    match fs.tree.at? here with
    | none => .error .notFound
    | some node =>
      match segs with
      | [] => .ok ⟨here, node⟩
      | s :: rest =>
        if !node.isDir then .error .notDirectory
        else if s = ↑"" || s = ↑"." then follow fs fuel links here rest
        else if s = ↑".." then follow fs fuel links here.dropLast rest
        else match node.child? s with
          | none => .error .notFound
          | some (.link target) =>
            match links, fs.startOf here target with
            | 0, _ => .error .tooManyLinks
            | _, none => .error .notFound
            | n + 1, some (start, more) => follow fs fuel n start (more ++ rest)
          | some _ => follow fs fuel links (here ++ [s]) rest

/-- Where segments lead from a place. -/
def followFrom (fs : FileSystem) (here segs : List FileName) : Except FileError Place :=
  fs.follow ((linkLimit + 1) * (segs.length + pathLimit + 1)) linkLimit here segs

/-- Where a path leads.  The empty path leads nowhere. -/
def locate (fs : FileSystem) (path : String) : Except FileError Place :=
  if path = "" then .error .notFound
  else if pathLimit < path.utf8ByteSize then .error .nameTooLong
  else match fs.startOf fs.workingDir path with
    | none => .error .notFound
    | some (start, segs) => fs.followFrom start segs

/-- The full path of a place. -/
def fullPath (fs : FileSystem) (names : List FileName) : String :=
  match names with
  | [] => if fs.top = "" then "/" else fs.top
  | _ => fs.top ++ "/" ++ FileName.key names

/-- The octets of a file. -/
def read (fs : FileSystem) (path : String) : Except FileError ByteArray :=
  (fs.locate path).bind Place.octets

/-- The octets of a file, by the names that lead to it from a place. -/
def readBelow (fs : FileSystem) (place : Place) (names : List FileName) :
    Except FileError ByteArray :=
  (fs.followFrom place.names names).bind Place.octets

/-- The text of a file. -/
def readText (fs : FileSystem) (path : String) : Except FileError String :=
  match fs.read path with
  | .error e => .error e
  | .ok octets =>
    match Text.decode octets.data.toList with
    | .ok text => .ok text
    | .error _ => .error .notText

/-- Whether a path leads to a regular file. -/
def isFile (fs : FileSystem) (path : String) : Bool :=
  match fs.locate path with
  | .ok ⟨_, .file _⟩ => true
  | _ => false

end FileSystem

end SourceAtlas
