import SourceAtlas.Text.Cut

/-!
# Paths

Paths inside a project are strings with slashes between their segments.  The root of the project is
the empty path.  A path written in an import may have empty segments, single dots and double dots;
joining it onto a directory resolves them, and fails when it would leave the root.
-/

namespace SourceAtlas
namespace Path

/-- The parts of a path between slashes. -/
def segments (path : String) : List String := (path.toList.splitOn '/').map String.ofList

/-- The path with the given segments. -/
def ofSegments (segs : List String) : String := Text.joinWith "/" segs

/-- The directory of a path (`parent_dir`): everything before its last slash. -/
def parent (path : String) : String := ofSegments (segments path).dropLast

/-- The last segment of a path. -/
def lastSegment (path : String) : String := (segments path).getLast?.getD ""

/-- The parent of a directory (`parent_of_dir`); the root has none. -/
def parentOfDir? (dir : String) : Option String := if dir = "" then none else some (parent dir)

/-- A name below a directory (`join_path`). -/
def join (dir name : String) : String := if dir = "" then name else dir ++ "/" ++ name

/-- A name below a directory whose path is written in any way, perhaps with a slash at its end. -/
def append (dir name : String) : String :=
  if dir = "" || Text.endsWith dir "/" then dir ++ name else dir ++ "/" ++ name

/-- One segment of a relative path applied to the segments of a directory, innermost first: empty
segments and single dots stay, a double dot goes up. -/
def stepInto (dirs : List String) (segment : String) : Option (List String) :=
  if segment = "" || segment = "." then some dirs
  else if segment = ".." then
    match dirs with
    | [] => none
    | _ :: outer => some outer
  else some (segment :: dirs)

/-- A relative path joined onto a directory, with its dots resolved (`join_normalize`); none when it
leaves the root. -/
def resolve? (base relative : String) : Option String :=
  let start := ((segments base).filter (· ≠ "")).reverse
  ((segments relative).foldlM stepInto start).map fun dirs => ofSegments dirs.reverse

/-- The text after the last dot of a path. -/
def extension? (path : String) : Option String :=
  (Text.cutLast? '.' path.toList).map fun (_, after) => String.ofList after

/-- Whether the text after the last dot of a path is one of the given extensions
(`has_extension`). -/
def hasExtension (path : String) (extensions : List String) : Bool :=
  (extension? path).any extensions.contains

/-- The components of a path that are names: no empty ones and no dots of either kind. -/
def names (path : String) : List String :=
  (segments path).filter fun s => s ≠ "" && s ≠ "." && s ≠ ".."

/-- The canonical spelling of a path: its names with single slashes between them. -/
def key (path : String) : String := ofSegments (names path)

/-- The last component of a path, unless it goes up or there is none. -/
def fileName? (path : String) : Option String :=
  match ((segments path).filter fun s => s ≠ "" && s ≠ ".").getLast? with
  | some ".." => none
  | last => last

end Path
end SourceAtlas
