/-!
# Dependency graphs

The directed multigraph of imports between the files of a project.  An edge leads from the importing
file to a file of the project, or out of the project.  Cycles, self-loops and parallel edges are
allowed, and an edge may name a path that is no node.
-/

namespace SourceAtlas

/-- Where an import leads (`DependencyTarget`). -/
inductive Target where
  /-- To a file of the project. -/
  | internal (path : String)
  /-- Out of the project. -/
  | external
  deriving DecidableEq, Repr

namespace Target

/-- The file that an import leads to. -/
def path? : Target → Option String
  | internal path => some path
  | external => none

/-- Whether an import leads out of the project. -/
def isExternal : Target → Bool
  | internal _ => false
  | external => true

end Target

/-- One import of one file (`DependencyEdge`). -/
structure Edge where
  /-- The importing file. -/
  source : String
  /-- Where the import leads. -/
  target : Target
  /-- The import as written. -/
  label : String
  deriving DecidableEq, Repr

/-- The imports between the files of a project (`DependencyGraph`). -/
structure Graph where
  /-- The files, in project order. -/
  nodes : List String
  /-- The imports, in the order in which they were found. -/
  edges : List Edge
  deriving DecidableEq, Repr

namespace Graph

/-- The edges that stay in the project. -/
def internalEdges (g : Graph) : List Edge := g.edges.filter (!·.target.isExternal)

/-- The edges that leave the project. -/
def externalEdges (g : Graph) : List Edge := g.edges.filter (·.target.isExternal)

/-- The files that a file imports, each once, in edge order (`dependencies_of`). -/
def dependenciesOf (g : Graph) (path : String) : List String :=
  ((g.edges.filter (·.source = path)).filterMap (·.target.path?)).eraseDups

/-- The files that import a file, each once, in edge order (`dependents_of`). -/
def dependentsOf (g : Graph) (path : String) : List String :=
  ((g.edges.filter (·.target.path? = some path)).map (·.source)).eraseDups

/-- Whether a file imports something from outside the project (`has_external_dependencies`). -/
def hasExternal (g : Graph) (path : String) : Bool := g.externalEdges.any (·.source = path)

/-- Explores breadth-first for at most `n` rounds: `queue` holds the files still to be expanded, and
`found` those met so far, in the order of their discovery. -/
def explore (g : Graph) : Nat → List String → List String → List String
  | 0, _, found => found
  | _ + 1, [], found => found
  | n + 1, current :: queue, found =>
    let fresh := (g.dependenciesOf current).filter fun p => !found.contains p
    explore g n (queue ++ fresh) (found ++ fresh)

/-- The files that a file imports directly or through others, breadth-first (`reachable_from`).  The
file itself is among them exactly when it lies on a cycle.  Every round but the first expands the
target of an edge, and no target twice, so there are enough rounds. -/
def reachableFrom (g : Graph) (path : String) : List String :=
  g.explore (g.edges.length + 1) [path] []

end Graph

end SourceAtlas
