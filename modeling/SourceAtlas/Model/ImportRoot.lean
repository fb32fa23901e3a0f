import SourceAtlas.Path.Basic
import SourceAtlas.Text.Blank

/-!
# Package roots

The package that an import belongs to.  `numpy.linalg` belongs to `numpy`, `@scope/pkg/sub` to
`@scope/pkg`, `github.com/org/repo/pkg` to `github.com/org/repo`, `serde::Deserialize` to `serde`.
A relative import belongs to no package.
-/

namespace SourceAtlas

/-- The first piece of an import that has no slashes: up to the first double colon, backslash or
dot. -/
def dottedRoot (name : List Char) : List Char :=
  let head := (Text.splitDoubleColon (Text.dropDoubleColons name)).headD []
  (head.takeWhile (· ≠ '\\')).takeWhile (· ≠ '.')

/-- The package that an import belongs to (`import_root`). -/
def importRoot? (name : String) : Option String :=
  match Text.trim name.toList with
  | [] => none
  | c :: rest =>
    let trimmed := String.ofList (c :: rest)
    if c = '.' || c = '/' then none
    else if c = '@' then some (Path.ofSegments ((Path.segments trimmed).take 2))
    else if Text.contains trimmed "/" then
      let segs := Path.segments trimmed
      let kept := if Text.contains (segs.headD "") "." then 3 else 1
      some (Path.ofSegments (segs.take kept))
    else match dottedRoot (c :: rest) with
      | [] => none
      | root => some (String.ofList root)

end SourceAtlas
