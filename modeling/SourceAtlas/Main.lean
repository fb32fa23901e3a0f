import SourceAtlas.Cli.Run

/-!
# The program

The outer layer: it takes a picture of the files that a command needs, runs the command on it and
prints what comes out.  Links keep the path that they end at.  There is no network here, so every
request for a summary fails and the fallback answers.
-/

namespace SourceAtlas
namespace Program

/-- How deep directories are looked into. -/
def depthLimit : Nat := 256

/-- A picture of what stands at a path.  What cannot be read is left out. -/
def picture : Nat → String → IO (Option FileTree)
  | 0, _ => return none
  | depth + 1, path => do
    let entry : IO.FS.DirEntry := ⟨path, ""⟩
    match ← EIO.toBaseIO entry.root.symlinkMetadata with
    | .error _ => return none
    | .ok found =>
      match found.type with
      | .dir =>
        match ← EIO.toBaseIO entry.root.readDir with
        | .error _ => return some (.dir (some .permissionDenied) [])
        | .ok entries =>
          let inside ← entries.toList.mapM fun e => do
            let node ← picture depth (Path.append path e.fileName)
            return node.map (FileName.ofString e.fileName, ·)
          return some (.dir none (inside.filterMap id))
      | .file =>
        match ← EIO.toBaseIO (IO.FS.readBinFile path) with
        | .error _ => return none
        | .ok octets => return some (.file octets)
      | .symlink =>
        match ← EIO.toBaseIO (IO.FS.realPath path) with
        | .error _ => return some (.link "")
        | .ok target => return some (.link target.toString)
      | .other => return none

/-- Adds a picture of what a path leads to, and a link to it where the path is written
differently. -/
def addPicture (workingDir : String) (tree : FileTree) (path : String) : IO FileTree := do
  match ← EIO.toBaseIO (IO.FS.realPath path) with
  | .error _ => return tree
  | .ok real =>
    match ← picture depthLimit real.toString with
    | none => return tree
    | some node =>
      let base := if Text.startsWith path "/" then "" else workingDir
      let namesOf (path : String) : List FileName := (Path.names path).map FileName.ofString
      let written := ((Path.resolve? base path).map namesOf).getD []
      let names := namesOf real.toString
      let tree := tree.insert names node
      return if written = names then tree else tree.insert written (.link real.toString)

/-- The paths that a command reads. -/
def pathsOf : Cli.Command → List String
  | .scan target .. => target.config.toList ++ [target.path]
  | .deps target .. => target.config.toList ++ [target.path]
  | .languages => []

/-- The files that a command may need. -/
def filesFor (command : Cli.Command) : IO FileSystem := do
  let workingDir := (← IO.currentDir).toString
  let names := (Path.names workingDir).map FileName.ofString
  let tree ← (pathsOf command).foldlM (addPicture workingDir) (FileTree.empty.insertDir names)
  return ⟨"", tree, names⟩

/-- The least grave level that is logged. -/
def threshold : IO Level := do
  return ((← IO.getEnv "RUST_LOG").bind Level.ofDirective?).getD .info

/-- Runs a command and prints what comes out. -/
def runCommand (command : Cli.Command) : IO UInt32 := do
  let ending := command.run ⟨← filesFor command, fun _ => none, Transport.offline⟩
  let level ← threshold
  for event in ending.events do
    if level.shows event.level then IO.eprintln event.line
  IO.print ending.output
  match ending.failure with
  | some failure =>
    IO.eprint failure.report
    return 1
  | none => return 0

end Program
end SourceAtlas

open SourceAtlas in
/-- Answers a command line. -/
def main (words : List String) : IO UInt32 := do
  match Cli.Request.ofWords words with
  | .run command => Program.runCommand command
  | .help =>
    IO.print Cli.usage
    return 0
  | .version =>
    IO.println Cli.versionLine
    return 0
  | .void =>
    IO.eprint Cli.usage
    return 2
