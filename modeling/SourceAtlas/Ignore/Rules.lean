import SourceAtlas.Error
import SourceAtlas.Ignore.Glob
import SourceAtlas.Path.Basic

/-!
# Ignore rules

Which paths below the root are left out of a scan.  Names, file endings and globs without a slash
are compared with every component of a path, so that a rule for `.git` leaves out `.git/config` but
not `gitignore.py`.  A glob with a slash is compared with the path as a whole.
-/

namespace SourceAtlas

/-- A glob of the rules. -/
structure GlobRule where
  /-- The glob. -/
  glob : Glob
  /-- Whether it is compared with the whole path. -/
  wholePath : Bool
  deriving DecidableEq, Repr

/-- The rules that leave paths out of a scan. -/
structure IgnoreRules where
  /-- Names of directories. -/
  dirs : List String
  /-- Names of files. -/
  files : List String
  /-- Endings of names. -/
  endings : List String
  /-- Globs. -/
  globs : List GlobRule
  deriving DecidableEq, Repr

namespace IgnoreRules

/-- The rules that leave nothing out. -/
def empty : IgnoreRules := ⟨[], [], [], []⟩

/-- The rules that hold unless said otherwise. -/
def standard : IgnoreRules where
  dirs :=
    [".venv", "venv", ".env", "env", "node_modules", ".git", ".hg", ".svn", ".idea",
     "__pycache__", ".pytest_cache", ".mypy_cache", ".tox", "build", "dist", "target", ".gradle",
     ".mvn", "bin", "obj", ".vs", ".vscode", "coverage", ".nyc_output", "logs", "log", "tmp",
     "temp", ".tmp"]
  files :=
    [".gitignore", ".DS_Store", "Thumbs.db", ".env", ".env.local", ".env.development",
     ".env.production", configFileName]
  endings :=
    [".pyc", ".pyo", ".class", ".o", ".obj", ".so", ".dll", ".dylib", ".exe", ".a", ".lib",
     ".egg-info", ".min.js"]
  globs := []

/-- The rules with one more directory name (`with_dir`). -/
def addDir (r : IgnoreRules) (name : String) : IgnoreRules := { r with dirs := r.dirs ++ [name] }

/-- The rules with one more file name (`with_file`). -/
def addFile (r : IgnoreRules) (name : String) : IgnoreRules := { r with files := r.files ++ [name] }

/-- The rules with one more ending (`with_suffix`). -/
def addEnding (r : IgnoreRules) (ending : String) : IgnoreRules :=
  { r with endings := r.endings ++ [ending] }

/-- The rules with one more glob, if it is well-formed (`add_glob`). -/
def addGlob (r : IgnoreRules) (glob : String) : Except Error IgnoreRules :=
  match Glob.parse glob with
  | .ok g => .ok { r with globs := r.globs ++ [⟨g, Text.contains glob "/"⟩] }
  | .error e => .error (.config (.badGlob glob e.message))

/-- The rules with additions of every kind. -/
def extend (r : IgnoreRules) (dirs files endings globs : List String) :
    Except Error IgnoreRules :=
  globs.foldlM addGlob
    (endings.foldl addEnding (files.foldl addFile (dirs.foldl addDir r)))

/-- Whether a component of a path is left out by itself (`matches_segment`). -/
def matchesComponent (r : IgnoreRules) (name : String) : Bool :=
  r.dirs.contains name || r.files.contains name || r.endings.any (Text.endsWith name) ||
    r.globs.any fun g => !g.wholePath && g.glob.fits name

/-- Whether a path as a whole is left out (`matches_whole_path`). -/
def matchesWholePath (r : IgnoreRules) (path : String) : Bool :=
  r.globs.any fun g => g.wholePath && g.glob.fits path

/-- Whether a path below the root is left out (`PathFilter.should_ignore`).  Components that are no
names do not count. -/
def shouldIgnore (r : IgnoreRules) (path : String) : Bool :=
  let names := Path.names path
  names.any r.matchesComponent || (!names.isEmpty && r.matchesWholePath (Path.ofSegments names))

end IgnoreRules

end SourceAtlas
