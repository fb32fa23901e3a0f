import SourceAtlas.Path.Basic
import SourceAtlas.Text.Utf8

/-!
# File names

The entries of a directory are named by octets, which need not be a text, and a path below a root is
the list of the names on the way.  Rules and reports see a name as a text, with replacement
characters where it is none (`to_string_lossy`).  The texts of the names with slashes between them
are the key of a path (`relative_key`); paths that are no text may share a key.
-/

namespace SourceAtlas

/-- The name of an entry of a directory. -/
structure FileName where
  /-- What it is written with. -/
  octets : List UInt8
  deriving DecidableEq, Repr

namespace FileName

/-- The name that a text is. -/
def ofString (s : String) : FileName := ⟨Text.encode s⟩

instance : Coe String FileName := ⟨ofString⟩

/-- A path may be written as the texts of its names. -/
instance : Coe (List String) (List FileName) := ⟨List.map ofString⟩

/-- The text that is shown for a name. -/
def text (name : FileName) : String := Text.decodeLossy name.octets

/-- The text by which a path is known (`relative_key`). -/
def key (path : List FileName) : String := Path.ofSegments (path.map text)

/-- The octets of a path. -/
def joined (path : List FileName) : List UInt8 := List.intercalate [0x2F] (path.map octets)

end FileName

end SourceAtlas
