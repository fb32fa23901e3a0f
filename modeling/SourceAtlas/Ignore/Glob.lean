import SourceAtlas.Pattern.Build

/-!
# Ignore globs

Globs by which a configuration names files to be ignored.  A question mark stands for one character,
a star for any number of them, brackets for one character of a set, and two stars that form a whole
component of a path for any number of components.  Only two stars ever match a slash; braces and
backslashes stand for themselves.
-/

namespace SourceAtlas

namespace Glob

/-- What is wrong with a glob. -/
inductive Fault where
  /-- A bracket that is never closed, or that encloses nothing. -/
  | badRange
  /-- More than two stars in a row. -/
  | tooManyStars
  /-- Two stars that are only a part of a component. -/
  | partialComponent
  deriving DecidableEq, Repr

/-- Where a glob is malformed, and how. -/
structure Error where
  /-- The place, counted in characters. -/
  position : Nat
  /-- What is wrong there. -/
  fault : Fault
  deriving DecidableEq, Repr

/-- The wording of a fault. -/
def Fault.message : Fault → String
  | badRange => "invalid range pattern"
  | tooManyStars => "wildcards are either regular `*` or recursive `**`"
  | partialComponent => "recursive wildcards must form a single path component"

/-- The wording of an error. -/
def Error.message (e : Error) : String :=
  s!"Pattern syntax error near position {e.position}: " ++ e.fault.message

/-- A part of a glob. -/
inductive Token where
  /-- This character. -/
  | char (c : Char)
  /-- Any character. -/
  | anyChar
  /-- A character of one of the ranges. -/
  | within (ranges : List (Char × Char))
  /-- A character of none of the ranges. -/
  | without (ranges : List (Char × Char))
  /-- Any number of characters. -/
  | anySequence
  /-- Any number of components. -/
  | anyPath
  deriving DecidableEq, Repr

/-- The ranges that the text between brackets gives. -/
def ranges : List Char → List (Char × Char)
  | low :: '-' :: high :: rest => (low, high) :: ranges rest
  | c :: rest => (c, c) :: ranges rest
  | [] => []

/-- The text up to the next closing bracket, and what follows the bracket. -/
def untilBracket (s : List Char) : Option (List Char × List Char) :=
  match s.span (· ≠ ']') with
  | (body, _ :: rest) => some (body, rest)
  | (_, []) => none

/-- A set in brackets; its first character is never the closing bracket. -/
def readSet : List Char → Option (Token × List Char)
  | '!' :: c :: s => (untilBracket s).map fun (body, rest) => (.without (ranges (c :: body)), rest)
  | '!' :: [] => none
  | c :: s => (untilBracket s).map fun (body, rest) => (.within (ranges (c :: body)), rest)
  | [] => none

/-- Adds a token for two stars, unless it would follow another one. -/
def addAnyPath (done : List Token) : List Token :=
  match done with
  | .anyPath :: _ :: _ => done
  | _ => .anyPath :: done

/-- Reads two stars: they have to begin and to end with a slash or with the glob. -/
def readAnyPath (position : Nat) (previous : Option Char) (rest : List Char) :
    Except Error (List Char) :=
  if previous.any (· ≠ '/') then .error ⟨position - 1, .partialComponent⟩
  else match rest with
    | [] => .ok []
    | '/' :: rest' => .ok rest'
    | _ => .error ⟨position + 2, .partialComponent⟩

/-- Reads a glob from `position` on, after the character `previous`; what has been read stands in
`done`, last first.  Every round reads a character. -/
def readTokens : Nat → Nat → Option Char → List Token → List Char → Except Error (List Token)
  | _, _, _, done, [] => .ok done.reverse
  | 0, _, _, done, _ => .ok done.reverse
  | fuel + 1, position, previous, done, c :: rest =>
    if c = '?' then readTokens fuel (position + 1) (some c) (.anyChar :: done) rest
    else if c = '*' then
      match (c :: rest).span (· = '*') with
      | ([_], after) => readTokens fuel (position + 1) (some c) (.anySequence :: done) after
      | ([_, _], after) =>
        match readAnyPath position previous after with
        | .ok after' =>
          readTokens fuel (position + 2 + (after.length - after'.length)) (some '/')
            (addAnyPath done) after'
        | .error e => .error e
      | _ => .error ⟨position + 2, .tooManyStars⟩
    else if c = '[' then
      match readSet rest with
      | some (token, after) =>
        readTokens fuel (position + 1 + (rest.length - after.length)) (some ']') (token :: done)
          after
      | none => .error ⟨position, .badRange⟩
    else readTokens fuel (position + 1) (some c) (.char c :: done) rest

/-- Whether a character lies in one of the ranges. -/
def inRanges (rs : List (Char × Char)) (c : Char) : Bool :=
  rs.any fun (low, high) => low ≤ c && c ≤ high

/-- The pattern of a list of tokens. -/
def toPattern : List Token → Pattern
  | [] => .lineEnd
  | [.anyPath] => .seq (Pattern.many fun _ => true) .lineEnd
  | token :: rest =>
    let first : Pattern := match token with
      | .char c => .one (· == c)
      | .anyChar => .one (· ≠ '/')
      | .within rs => .one fun c => c ≠ '/' && inRanges rs c
      | .without rs => .one fun c => c ≠ '/' && !inRanges rs c
      | .anySequence => Pattern.many (· ≠ '/')
      | .anyPath => Pattern.optional [Pattern.many fun _ => true, Pattern.text "/"]
    .seq first (toPattern rest)

end Glob

/-- A glob that can be matched. -/
structure Glob where
  /-- Its parts. -/
  tokens : List Glob.Token
  deriving DecidableEq, Repr

namespace Glob

/-- Reads a glob. -/
def parse (s : String) : Except Error Glob :=
  (readTokens s.length 0 none [] s.toList).map Glob.mk

/-- Whether a glob matches the whole of a text. -/
def fits (g : Glob) (s : String) : Bool :=
  (Pattern.seq .lineStart (toPattern g.tokens)).fits s.toList

end Glob

end SourceAtlas
