import SourceAtlas.Comment.Scanner
import SourceAtlas.Extract.Scopes
import SourceAtlas.Language.Registry
import SourceAtlas.Text.Lines

/-!
# Outlines

The outline of a text is what can be read off its lines one by one: the functions and types it
declares, the modules it imports, how many functions stand at top level, and how many lines it has.

Each line of the comment-free text yields one *fact*.  The reader carries two things from line to
line: whether it is inside a group of imports, and the open scopes.  The outline then collects the
facts, every name once, in the order of first occurrence.
-/

namespace SourceAtlas

/-- What the lines of one file declare (`Extraction`). -/
structure Outline where
  /-- The declared functions. -/
  functions : List String
  /-- The declared types. -/
  classes : List String
  /-- The imported modules. -/
  imports : List String
  /-- The number of functions declared outside any type or function body. -/
  topLevelFunctions : Nat
  /-- The number of lines. -/
  lineCount : Nat
  deriving DecidableEq, Repr

namespace Outline

/-- What one line says. -/
inductive Fact where
  /-- It declares a type. -/
  | typeNamed (name : String)
  /-- It declares a function. -/
  | functionNamed (name : String) (topLevel : Bool)
  /-- It imports modules. -/
  | importing (names : List String)
  /-- It opens a body of members. -/
  | memberScope
  /-- It opens or closes a group of imports. -/
  | importBlockEdge
  /-- It says nothing of interest. -/
  | plain
  deriving DecidableEq, Repr

/-- What the reader carries from line to line. -/
structure Reader where
  /-- Whether a group of imports is open. -/
  inImports : Bool
  /-- The open scopes. -/
  scopes : Scopes
  deriving DecidableEq, Repr

/-- The reader before the first line. -/
def Reader.start : Reader := ⟨false, Scopes.empty⟩

/-- The module names of a list such as `a, b as c` (`import_list`). -/
def moduleNames (list : String) : List String :=
  (list.toList.splitOn ',').filterMap fun item => (Text.words item).head?.map String.ofList

/-- Whether a function declared on this line is top-level. -/
def isTopLevel (r : Rule) (scopes : Scopes) (line : List Char) : Bool :=
  match r.nesting with
  | .indentation => !line.head?.any Text.isBlank
  | .braces => scopes.atTopLevel && !r.isMethod line

/-- The fact of a line outside groups of imports: types win over functions, functions over
imports. -/
def fact (r : Rule) (scopes : Scopes) (line : List Char) : Fact :=
  match r.declaration? r.classes line with
  | some name => .typeNamed name
  | none =>
    match r.declaration? r.functions line with
    | some name => .functionNamed name (isTopLevel r scopes line)
    | none =>
      match r.imports.findSome? (·.capture? line) with
      | some list => .importing (moduleNames list)
      | none => if r.opensMemberScope line then .memberScope else .plain

/-- The scopes with the declaration of a fact waiting for its body. -/
def Fact.declareIn (scopes : Scopes) : Fact → Scopes
  | .typeNamed _ => scopes.declare .type
  | .functionNamed .. => scopes.declare .callable
  | .memberScope => scopes.declare .type
  | _ => scopes

/-- Reads a line outside groups of imports. -/
def readPlain (r : Rule) (reader : Reader) (line : List Char) : Reader × Fact :=
  let f := fact r reader.scopes line
  let scopes := f.declareIn reader.scopes
  let advanced := if r.nesting = .braces then scopes.advance r.delimiters line else scopes
  ({ reader with scopes := advanced }, f)

/-- Reads a line inside a group of imports. -/
def readImport (b : ImportBlock) (reader : Reader) (line : List Char) : Reader × Fact :=
  if b.closesAt line then ({ reader with inImports := false }, .importBlockEdge)
  else (reader, match b.entry.capture? line with
    | some name => .importing [name]
    | none => .plain)

/-- Reads one line of comment-free text. -/
def readLine (r : Rule) (reader : Reader) (line : List Char) : Reader × Fact :=
  match r.importBlock with
  | none => readPlain r reader line
  | some b =>
    if reader.inImports then readImport b reader line
    else if b.opensAt line then ({ reader with inImports := true }, .importBlockEdge)
    else readPlain r reader line

/-- Reads lines in order; the facts come out last first. -/
def readLines (r : Rule) (lines : List (List Char)) : Reader × List Fact :=
  lines.foldl
    (fun (reader, facts) line => let (reader', f) := readLine r reader line; (reader', f :: facts))
    (Reader.start, [])

/-- The facts of a text, line by line. -/
def facts (r : Rule) (text : List Char) : List Fact :=
  (readLines r (Text.lines (Comment.strip r.delimiters text))).2.reverse

/-- The type a fact declares. -/
def Fact.type? : Fact → Option String
  | .typeNamed name => some name
  | _ => none

/-- The function a fact declares. -/
def Fact.function? : Fact → Option String
  | .functionNamed name _ => some name
  | _ => none

/-- The top-level function a fact declares. -/
def Fact.topLevelFunction? : Fact → Option String
  | .functionNamed name true => some name
  | _ => none

/-- The modules a fact imports. -/
def Fact.modules : Fact → List String
  | .importing names => names
  | _ => []

/-- Collects facts into an outline, every name once. -/
def ofFacts (facts : List Fact) (lineCount : Nat) : Outline where
  functions := (facts.filterMap Fact.function?).eraseDups
  classes := (facts.filterMap Fact.type?).eraseDups
  imports := (facts.flatMap Fact.modules).eraseDups
  topLevelFunctions := (facts.filterMap Fact.topLevelFunction?).eraseDups.length
  lineCount := lineCount

/-- The outline of a text (`StructuralExtractor.extract`); a language without a rule has only
lines. -/
def extract (l : Language) (text : List Char) : Outline :=
  match Registry.rule? l with
  | none => ofFacts [] (Text.countLines text)
  | some r => ofFacts (facts r text) (Text.countLines text)

end Outline

end SourceAtlas
