import SourceAtlas.Files.Name
import SourceAtlas.Pattern.Build
import SourceAtlas.Text.Lines
import SourceAtlas.Text.Utf8

/-!
# Gitignore files

The rules of a `.gitignore` file, one a line.  A rule without a slash inside applies at any depth,
any other is tied to the directory of its file; a slash at the end restricts it to directories, an
exclamation mark at the front takes back earlier rules.  Of the rules of one file the last that
matches decides, and a file in a deeper directory decides before one further up.

Rules are matched octet by octet, so a question mark stands for one octet.
-/

namespace SourceAtlas
namespace Gitignore

/-! ## Globs -/

/-- A part of a rule's glob. -/
inductive Token where
  /-- This character. -/
  | char (c : Char)
  /-- One octet other than a slash. -/
  | any
  /-- Any number of octets other than slashes. -/
  | star
  /-- Any number of components at the front. -/
  | anyFront
  /-- Everything below. -/
  | anyBelow
  /-- Any number of components in the middle. -/
  | anyBetween
  /-- One octet of a set, or of its complement. -/
  | set (negated : Bool) (ranges : List (Char × Char))
  /-- One of several branches. -/
  | branches (options : List (List Token))

/-- Whether a token is one that spans components and absorbs another of its kind. -/
def Token.isAnyFront : Token → Bool
  | anyFront => true
  | _ => false

/-- Whether a token is one that spans everything below. -/
def Token.isAnyBelow : Token → Bool
  | anyBelow => true
  | _ => false

/-- The text between brackets, read so far. -/
structure SetReader where
  /-- The ranges, last first. -/
  ranges : List (Char × Char)
  /-- Whether a hyphen waits for the end of a range. -/
  inRange : Bool
  /-- Whether nothing has been read yet. -/
  isFirst : Bool

/-- Ends the last range with a character; a range may not descend. -/
def SetReader.closeRange (r : SetReader) (c : Char) : Option SetReader :=
  match r.ranges with
  | (low, _) :: earlier => if low ≤ c then some ⟨(low, c) :: earlier, false, false⟩ else none
  | [] => none

/-- Reads one character between brackets. -/
def SetReader.read (r : SetReader) (c : Char) : Option SetReader :=
  if r.inRange then r.closeRange c
  else if c = '-' && !r.isFirst then some { r with inRange := true }
  else some ⟨(c, c) :: r.ranges, false, false⟩

/-- How a set in brackets ends. -/
inductive SetEnd where
  /-- At its bracket. -/
  | closed (ranges : List (Char × Char)) (rest : List Char)
  /-- With the line. -/
  | unclosed
  /-- With a range that descends. -/
  | descending

/-- Reads a set up to its closing bracket, which may not be its first character. -/
def readSet (r : SetReader) : List Char → SetEnd
  | [] => .unclosed
  | c :: rest =>
    if c = ']' && !r.isFirst then
      .closed (if r.inRange then ('-', '-') :: r.ranges else r.ranges).reverse rest
    else match r.read c with
      | some r' => readSet r' rest
      | none => .descending

/-- A rule's glob, read so far. -/
structure Reader where
  /-- The open branches, innermost first; the tokens of each stand last first. -/
  open_ : List (List Token)
  /-- How many branches were open before each open brace, innermost first. -/
  braces : List Nat
  /-- The character read last. -/
  previous : Option Char
  /-- Whether a bracket was found that never closes; from there on brackets are plain characters. -/
  plainBrackets : Bool

namespace Reader

/-- Adds a token to the current branch. -/
def push (r : Reader) (t : Token) : Reader :=
  match r.open_ with
  | branch :: outer => { r with open_ := (t :: branch) :: outer }
  | [] => { r with open_ := [[t]] }

/-- Notes the character that was read last. -/
def after (r : Reader) (c : Char) : Reader := { r with previous := some c }

/-- Opens a brace. -/
def openBrace (r : Reader) : Reader :=
  { r with open_ := [] :: r.open_, braces := r.open_.length :: r.braces }

/-- Closes a brace; there has to be one. -/
def closeBrace (r : Reader) : Option Reader :=
  match r.braces with
  | [] => none
  | outside :: braces =>
    let count := r.open_.length - outside
    let options := ((r.open_.take count).map List.reverse).reverse
    some (push { r with open_ := r.open_.drop count, braces := braces } (.branches options))

/-- A comma begins a new branch inside braces. -/
def comma (r : Reader) : Reader :=
  if r.braces.isEmpty then r.push (.char ',') else { r with open_ := [] :: r.open_ }

/-- Whether the current branch has no tokens yet. -/
def branchIsEmpty (r : Reader) : Bool := (r.open_.headD []).isEmpty

/-- Puts a token that spans components in place of the slash before it, unless another such token
already stands there. -/
def replaceSlash (r : Reader) (t : Token) : Reader :=
  match r.open_ with
  | (last :: branch) :: outer =>
    if last.isAnyFront || last.isAnyBelow then r
    else { r with open_ := (t :: branch) :: outer }
  | _ => r.push t

/-- Reads two stars, of which the text `rest` follows.  They span components only if they form a
whole one; otherwise they are two single stars. -/
def twoStars (r : Reader) (rest : List Char) : Reader × List Char :=
  let plain := ((r.push .star).push .star).after '*'
  if r.branchIsEmpty then
    match rest with
    | [] => ((r.push .anyFront).after '*', [])
    | '/' :: rest' => ((r.push .anyFront).after '/', rest')
    | _ => (plain, rest)
  else
    let afterSlash := r.previous = some '/'
    let atBranch := 1 < r.open_.length && (r.previous = some ',' || r.previous = some '\x7b')
    if !afterSlash && !atBranch then (plain, rest)
    else match rest with
      | [] => ((r.replaceSlash .anyBelow).after '*', [])
      | '/' :: rest' => ((r.replaceSlash .anyBetween).after '/', rest')
      | c :: _ =>
        if 1 < r.open_.length && (c = ',' || c = '\x7d') then
          ((r.replaceSlash .anyBelow).after '*', rest)
        else (plain, rest)

/-- Reads a bracket: a set, or a plain character if it never closes. -/
def bracket (r : Reader) (rest : List Char) : Option (Reader × List Char) :=
  let literal := (({ r with plainBrackets := true }.push (.char '[')).after '[', rest)
  if r.plainBrackets then some literal
  else
    let negated := rest.head? = some '!' || rest.head? = some '^'
    match readSet ⟨[], false, true⟩ (if negated then rest.tail else rest) with
    | .closed ranges rest' => some ((r.push (.set negated ranges)).after ']', rest')
    | .unclosed => some literal
    | .descending => none

/-- Reads the character `c`, of which the text `rest` follows. -/
def read (r : Reader) (c : Char) (rest : List Char) : Option (Reader × List Char) :=
  if c = '?' then some ((r.push .any).after c, rest)
  else if c = '*' then
    match rest with
    | '*' :: rest' => some (r.twoStars rest')
    | _ => some ((r.push .star).after c, rest)
  else if c = '[' then r.bracket rest
  else if c = '\x7b' then some (r.openBrace.after c, rest)
  else if c = '\x7d' then r.closeBrace.map fun r' => (r'.after c, rest)
  else if c = ',' then some (r.comma.after c, rest)
  else if c = '\\' then
    match rest with
    | [] => none
    | e :: rest' => some ((r.push (.char e)).after e, rest')
  else some ((r.push (.char c)).after c, rest)

end Reader

/-- Reads a whole glob; every round reads a character. -/
def readGlob : Nat → Reader → List Char → Option (List Token)
  | _, r, [] =>
    match r.open_ with
    | [branch] => some branch.reverse
    | _ => none
  | 0, _, _ => none
  | fuel + 1, r, c :: rest => (r.read c rest).bind fun (r', rest') => readGlob fuel r' rest'

/-- Octets as the characters with their values. -/
def charsOf (octets : List UInt8) : List Char := octets.map fun b => Char.ofNat b.toNat

/-- A text as the characters of its octets. -/
def octetChars (s : String) : List Char := charsOf (Text.encode s)

/-- Whether an octet belongs to a set.  A character of several octets contributes each of them, and
a range runs from the last octet of its lower end to the first of its upper end. -/
def inSet (ranges : List (Char × Char)) (octet : Char) : Bool :=
  ranges.any fun (low, high) =>
    let lows := octetChars (String.singleton low)
    let highs := octetChars (String.singleton high)
    lows.contains octet || highs.contains octet ||
      (low ≠ high && lows.getLastD low ≤ octet && octet ≤ highs.headD high)

mutual

/-- The pattern of a token. -/
def Token.toPattern : Token → Pattern
  | .char c => Pattern.all ((octetChars (String.singleton c)).map fun o => .one (· == o))
  | .any => .one (· ≠ '/')
  | .star => Pattern.many (· ≠ '/')
  | .anyFront =>
    Pattern.anyOf [Pattern.optional [Pattern.text "/"],
      Pattern.all [Pattern.many fun _ => true, Pattern.text "/"]]
  | .anyBelow => Pattern.all [Pattern.text "/", Pattern.many fun _ => true]
  | .anyBetween =>
    Pattern.anyOf [Pattern.text "/",
      Pattern.all [Pattern.text "/", Pattern.many fun _ => true, Pattern.text "/"]]
  | .set negated ranges => .one fun o => inSet ranges o != negated
  | .branches options =>
    match optionPatterns options with
    | [] => .empty
    | ps => Pattern.anyOf ps

/-- The pattern of a list of tokens. -/
def tokensPattern : List Token → Pattern
  | [] => .empty
  | t :: rest => .seq t.toPattern (tokensPattern rest)

/-- The patterns of the branches that are not empty. -/
def optionPatterns : List (List Token) → List Pattern
  | [] => []
  | [] :: rest => optionPatterns rest
  | (t :: tokens) :: rest =>
    .seq t.toPattern (tokensPattern tokens) :: optionPatterns rest

end

/-- The pattern of a whole glob; two stars alone match everything. -/
def globPattern (tokens : List Token) : Pattern :=
  match tokens with
  | [.anyFront] => .empty
  | _ => Pattern.all [.lineStart, tokensPattern tokens, .lineEnd]

/-! ## Rules -/

/-- One line of a file. -/
structure GitRule where
  /-- What it matches, octet by octet. -/
  pattern : Pattern
  /-- Whether it takes earlier rules back. -/
  takesBack : Bool
  /-- Whether it is for directories only. -/
  dirsOnly : Bool

/-- The text of a rule without an escaped or a plain mark at its front: whether it takes back,
whether it is tied to the directory of its file, and the rest. -/
def readMarks (line : List Char) : Bool × Bool × List Char :=
  match line with
  | '\\' :: '!' :: rest => (false, false, '!' :: rest)
  | '\\' :: '#' :: rest => (false, false, '#' :: rest)
  | '!' :: '/' :: rest => (true, true, rest)
  | '!' :: rest => (true, false, rest)
  | '/' :: rest => (false, true, rest)
  | _ => (false, false, line)

/-- A line without the blanks at its end, unless the last one is escaped. -/
def trimLine (line : List Char) : List Char :=
  if ['\\', ' '].isSuffixOf line then line else Text.trimEnd line

/-- The text of a rule without a slash at its end, and whether there was one. -/
def dropDirMark (s : List Char) : Bool × List Char :=
  if s.getLast? = some '/' then
    let s' := s.dropLast
    (true, if s'.getLast? = some '\\' then s'.dropLast else s')
  else (false, s)

/-- The glob of a rule, completed so that it describes whole paths: at any depth unless it is tied,
and for two stars at the end everything inside but not the directory itself. -/
def completeGlob (tied : Bool) (s : List Char) : List Char :=
  let anywhere := !tied && !s.contains '/' && s ≠ ['*', '*']
  let s' := if anywhere then "**/".toList ++ s else s
  if "/**".toList.isSuffixOf s' then s' ++ "/*".toList else s'

/-- The rule of a line, if it has one.  Comments and malformed lines have none. -/
def readRule (line : List Char) : Option GitRule :=
  if line.head? = some '#' then none
  else match trimLine line with
    | [] => none
    | trimmed => do
      let (takesBack, tied, s) := readMarks trimmed
      let (dirsOnly, s) := dropDirMark s
      let glob := completeGlob tied s
      let tokens ← readGlob glob.length ⟨[[]], [], none, false⟩ glob
      return ⟨globPattern tokens, takesBack, dirsOnly⟩

/-- Cuts octets into lines at their line feeds. -/
def octetLines (octets : List UInt8) : List (List UInt8) :=
  let pieces := octets.splitOn 10
  if pieces.getLast? = some [] then pieces.dropLast else pieces

/-- The lines of a file up to the first that is no text. -/
def textLines (octets : List UInt8) : List (List Char) :=
  ((octetLines octets).map fun line => (Text.decode line).toOption).takeWhile Option.isSome
    |>.map fun line => Text.dropReturn ((line.getD "").toList)

/-- The rules of a file. -/
def readRules (octets : List UInt8) : List GitRule :=
  match textLines octets with
  | [] => []
  | first :: rest =>
    (first.dropWhile (· = Text.byteOrderMark) :: rest).filterMap readRule

/-- What the rules of one file say of a path below its directory: whether it is ignored, or
nothing. -/
def verdict? (rules : List GitRule) (path : List FileName) (isDir : Bool) : Option Bool :=
  let chars := charsOf (FileName.joined path)
  (rules.reverse.find? fun r => (!r.dirsOnly || isDir) && r.pattern.fits chars).map (!·.takesBack)

/-- The rules that a directory brings in. -/
structure DirRules where
  /-- The names on the way from the root to the directory. -/
  dir : List FileName
  /-- The rules of its `.gitignore`. -/
  shared : List GitRule
  /-- The rules of its private exclusion file, which yield to all shared ones. -/
  hidden : List GitRule

/-- Whether a path below the root is ignored, given the rules of all directories that hold it, the
deepest first.  Each of them sees the part of the path below itself. -/
def ignores (stack : List DirRules) (path : List FileName) (isDir : Bool) : Bool :=
  let ask (rules : DirRules → List GitRule) : Option Bool :=
    stack.findSome? fun d => verdict? (rules d) (path.drop d.dir.length) isDir
  ((ask DirRules.shared).or (ask DirRules.hidden)).getD false

end Gitignore
end SourceAtlas
