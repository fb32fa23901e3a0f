import SourceAtlas.Json.Basic
import SourceAtlas.Model.Project

/-!
# Records

How source files, graphs and skip reasons are written as JSON values and read back.  A record is
written as an object with its fields in a fixed order.  It is read from an object, of which other
fields are ignored, or from a list of its fields in that order.
-/

namespace SourceAtlas
namespace Record

/-- The values of the named fields of a record. -/
def fields? (keys : List String) : Json → Option (List Json)
  | .arr items => if items.length = keys.length then some items else none
  | .obj fields => keys.mapM (Json.obj fields).field?
  | _ => none

/-- The word of an enumeration: a string, or an object with the word as its only key and no
content. -/
def word? : Json → Option String
  | .str s => some s
  | .obj [(s, .null)] => some s
  | _ => none

/-- Reads every item of a list. -/
def list? {α : Type} (item? : Json → Option α) (j : Json) : Option (List α) :=
  j.arr?.bind (·.mapM item?)

/-! ## Source files -/

/-- The language that a value names. -/
def language? (j : Json) : Option Language := (word? j).bind Language.ofTag?

/-- The purpose that a value names. -/
def purpose? (j : Json) : Option Purpose := (word? j).bind Purpose.ofTag?

/-- The set of purposes that a list names. -/
def purposes? (j : Json) : Option Purposes := (list? purpose? j).map Purposes.ofList

/-- The fields of a source file, in order. -/
def sourceFileKeys : List String :=
  ["path", "language", "line_count", "functions", "top_level_functions", "classes", "imports",
   "purposes", "is_build_artifact"]

/-- Writes a source file. -/
def ofSourceFile (f : SourceFile) : Json :=
  .obj
    [("path", .str f.path),
     ("language", .str f.language.tag),
     ("line_count", .nat f.lineCount),
     ("functions", .strings f.functions),
     ("top_level_functions", .nat f.topLevelFunctions),
     ("classes", .strings f.classes),
     ("imports", .strings f.imports),
     ("purposes", .strings (f.purposes.toList.map (·.tag))),
     ("is_build_artifact", .bool f.isBuildFile)]

/-- Reads a source file. -/
def sourceFile? (j : Json) : Option SourceFile := do
  match ← fields? sourceFileKeys j with
  | [path, language, lineCount, functions, topLevel, classes, imports, purposes, isBuildFile] =>
    return {
      path := ← path.str?
      language := ← language? language
      lineCount := ← lineCount.nat64?
      functions := ← functions.strings?
      topLevelFunctions := ← topLevel.nat64?
      classes := ← classes.strings?
      imports := ← imports.strings?
      purposes := ← purposes? purposes
      isBuildFile := ← isBuildFile.bool? }
  | _ => none

/-! ## Graphs -/

/-- Writes the target of an edge. -/
def ofTarget : Target → Json
  | .internal path => .obj [("kind", .str "internal"), ("path", .str path)]
  | .external => .obj [("kind", .str "external")]

/-- The kind and the content of a tagged value; an object need not have content. -/
def tagged? (contentKey : String) : Json → Option (String × Option Json)
  | .arr [kind, content] => (word? kind).map (·, some content)
  | .obj fields => do
    let kind ← (Json.obj fields).field? "kind"
    return (← word? kind, (Json.obj fields).field? contentKey)
  | _ => none

/-- Reads the target of an edge. -/
def target? (j : Json) : Option Target := do
  match ← tagged? "path" j with
  | ("internal", some content) => return .internal (← content.str?)
  | ("external", none) => some .external
  | ("external", some .null) => some .external
  | _ => none

/-- Writes an edge. -/
def ofEdge (e : Edge) : Json :=
  .obj [("from", .str e.source), ("to", ofTarget e.target), ("import", .str e.label)]

/-- Reads an edge. -/
def edge? (j : Json) : Option Edge := do
  match ← fields? ["from", "to", "import"] j with
  | [source, target, label] => return ⟨← source.str?, ← target? target, ← label.str?⟩
  | _ => none

/-- Writes a graph. -/
def ofGraph (g : Graph) : Json :=
  .obj [("nodes", .strings g.nodes), ("edges", .arr (g.edges.map ofEdge))]

/-- Reads a graph. -/
def graph? (j : Json) : Option Graph := do
  match ← fields? ["nodes", "edges"] j with
  | [nodes, edges] => return ⟨← nodes.strings?, ← list? edge? edges⟩
  | _ => none

/-! ## Skip reasons -/

/-- Writes a skip reason. -/
def ofSkipReason : SkipReason → Json
  | .unreadable detail => .obj [("kind", .str "unreadable"), ("detail", .str detail)]
  | .invalidEncoding detail => .obj [("kind", .str "invalid-encoding"), ("detail", .str detail)]
  | .tooLarge octets => .obj [("kind", .str "too-large"), ("detail", .nat octets)]

/-- Reads a skip reason. -/
def skipReason? (j : Json) : Option SkipReason := do
  match ← tagged? "detail" j with
  | ("unreadable", some detail) => return .unreadable (← detail.str?)
  | ("invalid-encoding", some detail) => return .invalidEncoding (← detail.str?)
  | ("too-large", some detail) => return .tooLarge (← detail.nat64?)
  | _ => none

/-- Writes a skipped file. -/
def ofSkippedFile (s : SkippedFile) : Json :=
  .obj [("path", .str s.path), ("reason", ofSkipReason s.reason)]

/-! ## Models -/

/-- The fields of a written model, in order. -/
def modelFields (m : ProjectModel) : List (String × Json) :=
  [("root", .str m.root),
   ("files", .arr (m.files.map ofSourceFile)),
   ("total_lines", .nat m.totalLines),
   ("architecture", .str m.architecture.tag),
   ("dependency_graph", ofGraph m.graph),
   ("build_artifacts", .strings m.buildFiles),
   ("skipped", .arr (m.skipped.map ofSkippedFile))]

/-- Writes a model. -/
def ofModel (m : ProjectModel) : Json := .obj (modelFields m)

end Record
end SourceAtlas
