/-!
# Skipped files

A file that was found but not analysed is kept in the model with the reason: it could not be read,
it is not text, or it is too large.
-/

namespace SourceAtlas

/-- Why a file has no record. -/
inductive SkipReason where
  /-- Walking to it or reading it failed. -/
  | unreadable (detail : String)
  /-- Its octets are no text. -/
  | invalidEncoding (detail : String)
  /-- It has more octets than allowed. -/
  | tooLarge (octets : Nat)
  deriving DecidableEq, Repr

/-- The wording of a reason. -/
def SkipReason.message : SkipReason → String
  | unreadable detail => s!"unreadable: {detail}"
  | invalidEncoding detail => s!"invalid encoding: {detail}"
  | tooLarge octets => s!"too large: {octets} bytes"

/-- What a reason says beyond its kind. -/
def SkipReason.detail : SkipReason → String
  | unreadable detail => detail
  | invalidEncoding detail => detail
  | tooLarge octets => toString octets

/-- A file that has no record. -/
structure SkippedFile where
  /-- The path below the root of the project. -/
  path : String
  /-- Why it has no record. -/
  reason : SkipReason
  deriving DecidableEq, Repr

end SourceAtlas
