/-!
# TOML tables

The values of a TOML document and the rules by which its statements build up tables.  A table
remembers how it came about, because that decides who may add to it: a table that was opened by a
header is not opened again and takes no dotted keys from outside, a table written in braces is
closed, and a table that only stands on the way to another one may still be opened.

Floating-point numbers and dates are no values here; no setting takes them.
-/

namespace SourceAtlas
namespace Toml

/-- How a table came about. -/
inductive Origin where
  /-- By a header of its own, or as the document. -/
  | header
  /-- On the way to a table with a header. -/
  | passed
  /-- By a dotted key. -/
  | dotted
  /-- In braces. -/
  | braces
  deriving DecidableEq, Repr

/-- A value of a document. -/
inductive Value where
  | str (s : String)
  | int (n : Int)
  | bool (b : Bool)
  /-- A list in brackets. -/
  | arr (items : List Value)
  /-- A table. -/
  | table (origin : Origin) (entries : List (String × Value))
  /-- A list of tables with a header each; the last one, which can still grow, stands first. -/
  | tables (latest : List (String × Value)) (earlier : List (List (String × Value)))

/-- The entries of a table, in the order in which they were made. -/
abbrev Entries := List (String × Value)

namespace Entries

/-- The value of a key. -/
def get? (t : Entries) (key : String) : Option Value := (t.find? (·.1 = key)).map (·.2)

/-- The table with a value put in place of that of a key, or added for it. -/
def put (t : Entries) (key : String) (v : Value) : Entries :=
  if t.any (·.1 = key) then t.map fun e => if e.1 = key then (key, v) else e
  else t ++ [(key, v)]

/-- The table with one more key, which may not be there yet. -/
def add (key : String) (v : Value) (t : Entries) : Option Entries :=
  match t.get? key with
  | none => some (t ++ [(key, v)])
  | some _ => none

/-- Changes the table at the end of a path of headers; tables that are missing on the way are
made. -/
def alterBelow (f : Entries → Option Entries) : List String → Entries → Option Entries
  | [], t => f t
  | key :: path, t =>
    match t.get? key with
    | none => (alterBelow f path []).map fun inner => t.put key (.table .passed inner)
    | some (.table .braces _) => none
    | some (.table origin inner) =>
      (alterBelow f path inner).map fun inner' => t.put key (.table origin inner')
    | some (.tables latest earlier) =>
      (alterBelow f path latest).map fun latest' => t.put key (.tables latest' earlier)
    | some _ => none

/-- Adds a value under a dotted key.  The key does not reach into tables that were opened by a
header or in braces, and the table that it adds to has to be one that dotted keys made. -/
def addDotted (v : Value) : List String → String → Entries → Option Entries
  | [], key, t => t.add key v
  | [step], key, t =>
    match t.get? step with
    | none => some (t.put step (.table .dotted [(key, v)]))
    | some (.table .dotted inner) => (add key v inner).map fun i => t.put step (.table .dotted i)
    | some _ => none
  | step :: path, key, t =>
    match t.get? step with
    | none => (addDotted v path key []).map fun i => t.put step (.table .dotted i)
    | some (.table .dotted inner) =>
      (addDotted v path key inner).map fun i => t.put step (.table .dotted i)
    | some (.table .passed inner) =>
      (addDotted v path key inner).map fun i => t.put step (.table .passed i)
    | some (.tables latest earlier) =>
      (addDotted v path key latest).map fun l => t.put step (.tables l earlier)
    | some _ => none

/-- Opens a table by its header: one that is not there, or that only stands on the way to others. -/
def openTable (key : String) (t : Entries) : Option Entries :=
  match t.get? key with
  | none => some (t ++ [(key, .table .header [])])
  | some (.table .passed inner) => some (t.put key (.table .header inner))
  | some _ => none

/-- Opens the next table of a list by its header. -/
def openNext (key : String) (t : Entries) : Option Entries :=
  match t.get? key with
  | none => some (t ++ [(key, .tables [] [])])
  | some (.tables latest earlier) => some (t.put key (.tables [] (latest :: earlier)))
  | some _ => none

end Entries

/-- A statement of a document. -/
inductive Statement where
  /-- A header of a table. -/
  | header (path : List String) (key : String)
  /-- A header of the next table of a list. -/
  | next (path : List String) (key : String)
  /-- A key, dotted if the path before it is not empty, with its value. -/
  | setting (path : List String) (key : String) (v : Value)

/-- A document as far as it has been read. -/
structure Draft where
  /-- The document. -/
  root : Entries
  /-- The table that keys are added to. -/
  current : List String

/-- The document with one more statement. -/
def Draft.apply (d : Draft) : Statement → Option Draft
  | .header path key =>
    (d.root.alterBelow (Entries.openTable key) path).map fun root => ⟨root, path ++ [key]⟩
  | .next path key =>
    (d.root.alterBelow (Entries.openNext key) path).map fun root => ⟨root, path ++ [key]⟩
  | .setting path key v =>
    (d.root.alterBelow (Entries.addDotted v path key) d.current).map fun root => { d with root }

/-- The document that statements make. -/
def ofStatements? (statements : List Statement) : Option Entries :=
  (statements.foldlM Draft.apply ⟨[], []⟩).map (·.root)

/-- The table that keys in braces make. -/
def ofPairs? (pairs : List (List String × String × Value)) : Option Value :=
  (pairs.foldlM (fun t (path, key, v) => Entries.addDotted v path key t) []).map
    (Value.table .braces)

end Toml
end SourceAtlas
