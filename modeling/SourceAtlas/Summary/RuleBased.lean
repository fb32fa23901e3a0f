import SourceAtlas.SourceFile

/-!
# Descriptions by rule

A description that needs nothing but the record of a file: its purpose, how many types and functions
it declares, and the first few things it depends on.
-/

namespace SourceAtlas

/-- Imports too common to say anything about a project. -/
def trivialImports : List String := ["os", "sys", "re", "json", "typing"]

namespace Summary

/-- How many dependencies a description lists. -/
def listedDependencies : Nat := 5

/-- The line on the purpose of a file, unless it is nothing in particular. -/
def purposePart (f : SourceFile) : List String :=
  if f.mainPurpose = .general then [] else ["**Purpose**: " ++ f.mainPurpose.description]

/-- The line on what a file declares. -/
def architecturePart (f : SourceFile) : List String :=
  match f.classes.length, f.functions.length with
  | 0, 0 => []
  | c, 0 => [s!"**Architecture**: Class-based with {c} class(es)"]
  | 0, n => [s!"**Architecture**: Functional with {n} function(s)"]
  | c, n => [s!"**Architecture**: Object-oriented with {c} class(es) and {n} function(s)"]

/-- The imports worth listing: neither relative nor trivial. -/
def notableImports (f : SourceFile) : List String :=
  f.imports.filter fun name => !Text.startsWith name "." && !trivialImports.contains name

/-- The line on what a file depends on. -/
def dependencyPart (f : SourceFile) : List String :=
  match (notableImports f).take listedDependencies with
  | [] => []
  | names => ["**Dependencies**: " ++ Text.joinWith ", " (names.map fun n => "`" ++ n ++ "`")]

/-- The description of a file by rule (`RuleBasedSummarizer.describe`). -/
def describe (f : SourceFile) : String :=
  match purposePart f ++ architecturePart f ++ dependencyPart f with
  | [] => s!"**Purpose**: General {f.language.displayName} module"
  | parts => Text.joinWith "\n" parts

end Summary
end SourceAtlas
