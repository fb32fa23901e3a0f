import SourceAtlas.Files.System
import SourceAtlas.Ignore.Gitignore
import SourceAtlas.Ignore.Rules
import SourceAtlas.Model.Skip

/-!
# Walking a tree

The walk of a scan (`FileWalker`).  It visits the entries below a root that no rule leaves out, by
the octets of their names, and keeps the regular files, sorted by key; files with one key stay in
the order of the visits.  A directory that is left out is not entered, so nothing below it is found;
one that cannot be listed is noted as skipped; links are not followed.
-/

namespace SourceAtlas

/-- What is left out of a walk. -/
structure WalkOptions where
  /-- The rules of the scan. -/
  rules : IgnoreRules
  /-- Whether gitignore files count. -/
  gitignore : Bool

/-- A file found by a walk. -/
structure WalkedFile where
  /-- The names on the way to it from the root. -/
  names : List FileName
  /-- Its octets. -/
  octets : ByteArray

/-- The text by which a file is known. -/
def WalkedFile.key (w : WalkedFile) : String := FileName.key w.names

/-- What a walk comes upon. -/
inductive Visit where
  /-- A regular file. -/
  | file (w : WalkedFile)
  /-- A directory that cannot be listed, with the wording of the error. -/
  | failure (names : List FileName) (detail : String)

namespace Visit

/-- The names on the way from the root. -/
def names : Visit → List FileName
  | file w => w.names
  | failure names _ => names

/-- The file of a visit. -/
def file? : Visit → Option WalkedFile
  | file w => some w
  | failure .. => none

/-- The entry for what could not be visited. -/
def skip? : Visit → Option SkippedFile
  | file _ => none
  | failure names detail => some ⟨FileName.key names, .unreadable detail⟩

end Visit

/-- The wording of an error of a walk. -/
def FileError.walkMessage (e : FileError) (path : String) : String :=
  path ++ ": IO error for operation on " ++ path ++ ": " ++ e.message

/-- The root of a walk. -/
structure WalkRoot where
  /-- The path by which it was given. -/
  path : String
  /-- Reads the file that names below the root lead to. -/
  octets? : List FileName → Option ByteArray

namespace WalkRoot

/-- The path by which a walk asks for what stands at names below its root, as it is shown. -/
def shown (root : WalkRoot) (names : List FileName) : String :=
  names.foldl (fun path name => Path.append path name.text) root.path

/-- The number of octets of that path.  A slash at the end of the root is not written twice. -/
def size (root : WalkRoot) (names : List FileName) : Nat :=
  match names with
  | [] => root.path.utf8ByteSize
  | _ =>
    root.path.utf8ByteSize + 1 + (FileName.joined names).length -
      if Text.endsWith root.path "/" then 1 else 0

/-- Whether a walk may ask for what stands at names. -/
def reaches (root : WalkRoot) (names : List FileName) : Bool :=
  root.size names ≤ FileSystem.pathLimit

/-- Why a walk cannot list the directory at names, which has a refusal of its own or none. -/
def refusal? (root : WalkRoot) (names : List FileName) (own : Option FileError) :
    Option FileError :=
  if root.reaches names then own else some .nameTooLong

/-- The octets of a file that a walk asks for. -/
def read? (root : WalkRoot) (names : List FileName) : Option ByteArray :=
  if root.reaches names then root.octets? names else none

end WalkRoot

namespace Walk

/-- The rules that a directory brings in. -/
def dirRules (options : WalkOptions) (root : WalkRoot) (dir : List FileName) : Gitignore.DirRules :=
  let read (path : List FileName) : List Gitignore.GitRule :=
    if options.gitignore then
      match root.read? (dir ++ path) with
      | some octets => Gitignore.readRules octets.data.toList
      | none => []
    else []
  ⟨dir, read [".gitignore"], read [".git", "info", "exclude"]⟩

/-- Whether an entry is left out. -/
def isLeftOut (options : WalkOptions) (stack : List Gitignore.DirRules) (names : List FileName)
    (isDir : Bool) : Bool :=
  Gitignore.ignores stack names isDir || options.rules.shouldIgnore (FileName.key names)

mutual

/-- What a walk comes upon among the entries of a directory and below them; `stack` holds the rules
of the directories on the way, the deepest first. -/
def entriesVisits (options : WalkOptions) (root : WalkRoot) (stack : List Gitignore.DirRules)
    (dir : List FileName) : List (FileName × FileTree) → List Visit
  | [] => []
  | (name, node) :: rest =>
    let names := dir ++ [name]
    (if isLeftOut options stack names node.isDir then []
      else nodeVisits options root stack names node) ++
      entriesVisits options root stack dir rest

/-- What a walk comes upon at the end of names and below it. -/
def nodeVisits (options : WalkOptions) (root : WalkRoot) (stack : List Gitignore.DirRules)
    (names : List FileName) : FileTree → List Visit
  | .file octets => [.file ⟨names, octets⟩]
  | .link _ => []
  | .dir refusal entries =>
    match root.refusal? names refusal with
    | some e => [.failure names (e.walkMessage (root.shown names))]
    | none => entriesVisits options root (dirRules options root names :: stack) names entries

end

/-- What a walk comes upon, in the order of the octets of the names. -/
def visits (options : WalkOptions) (root : WalkRoot) (node : FileTree) : List Visit :=
  (nodeVisits options root [] [] node).mergeSort fun a b =>
    a.names.map FileName.octets ≤ b.names.map FileName.octets

end Walk

/-- What a walk brings. -/
structure Walked where
  /-- The files, sorted by key. -/
  files : List WalkedFile
  /-- What could not be visited, sorted by path. -/
  skipped : List SkippedFile

/-- What visits bring. -/
def Walked.ofVisits (visits : List Visit) : Walked where
  files := (visits.filterMap Visit.file?).mergeSort fun a b => a.key ≤ b.key
  skipped := (visits.filterMap Visit.skip?).mergeSort fun a b => a.path ≤ b.path

namespace FileSystem

/-- A place as the root of a walk that was given its path. -/
def walkRoot (fs : FileSystem) (path : String) (place : Place) : WalkRoot :=
  ⟨path, fun names => (fs.readBelow place names).toOption⟩

/-- Walks from a place that was given by a path. -/
def walkAt (fs : FileSystem) (options : WalkOptions) (path : String) (place : Place) : Walked :=
  .ofVisits (Walk.visits options (fs.walkRoot path place) place.node)

/-- Walks from a place by its full path. -/
def walk (fs : FileSystem) (options : WalkOptions) (place : Place) : Walked :=
  fs.walkAt options (fs.fullPath place.names) place

/-- Walks from a root, which may be missing. -/
def walkFrom (fs : FileSystem) (options : WalkOptions) (root : String) : Walked :=
  match fs.locate root with
  | .ok place => fs.walkAt options root place
  | .error e => ⟨[], [⟨"", .unreadable (e.walkMessage root)⟩]⟩

end FileSystem

end SourceAtlas
