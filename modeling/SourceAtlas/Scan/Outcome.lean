import SourceAtlas.Event
import SourceAtlas.Files.Walk
import SourceAtlas.Scan.Progress

/-!
# Outcomes of files

What becomes of one file of a scan: a record, or a reason why it has none.  A file that is too large
is skipped whatever it holds; of the others, those whose octets are no text.  A file that a walk has
found can be read.
-/

namespace SourceAtlas

/-- What became of a file (`FileOutcome`). -/
inductive Outcome where
  /-- It has a record. -/
  | analysed (f : SourceFile)
  /-- It has none. -/
  | skipped (s : SkippedFile)
  deriving DecidableEq

namespace Outcome

/-- The record of a file. -/
def record? : Outcome → Option SourceFile
  | analysed f => some f
  | skipped _ => none

/-- The reason why a file has no record, with its path. -/
def skip? : Outcome → Option SkippedFile
  | analysed _ => none
  | skipped s => some s

/-- Whether a file is larger than a limit. -/
def exceeds (octets : ByteArray) : Option Nat → Bool
  | some limit => limit < octets.size
  | none => false

/-- Analyses a file, unless it is larger than the limit or no text (`analyze_file`). -/
def ofFile (limit : Option Nat) (file : WalkedFile) : Outcome :=
  if exceeds file.octets limit then skipped ⟨file.key, .tooLarge file.octets.size⟩
  else match Text.decode file.octets.data.toList with
    | .ok text => analysed (SourceFile.analyze file.key text)
    | .error e => skipped ⟨file.key, .invalidEncoding e.message⟩

/-- The event that a file was done. -/
def event : Outcome → Event
  | analysed f => .analysed f
  | skipped s => .skipped s

/-- The progress after a file. -/
def count (p : Progress) : Outcome → Progress
  | analysed _ => p.countAnalysed
  | skipped _ => p.countSkipped

end Outcome

end SourceAtlas
