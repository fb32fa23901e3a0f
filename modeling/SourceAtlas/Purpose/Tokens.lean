import SourceAtlas.Text.Case
import SourceAtlas.Text.Numeric

/-!
# Words in names

Names are compared word by word.  A word is a run of alphanumeric characters, cut once more where a
capital begins a new word: after a small letter or a digit, or before a small letter at the end of a
run of capitals.  So `HTTPServerConfig` has the words `http`, `server` and `config`.
-/

namespace SourceAtlas
namespace Purpose

/-- Whether the capital `c` begins a new word after `previous` and before the text `rest`. -/
def beginsWord (previous c : Char) (rest : List Char) : Bool :=
  Text.isUppercase c &&
    (Text.isLowercase previous || previous.isDigit ||
      (Text.isUppercase previous && rest.head?.any Text.isLowercase))

/-- A word read so far, last character first, together with the character of the name that was read
last.  There is no open word between two words. -/
structure OpenWord where
  /-- The last character of the name that belongs to the word. -/
  previous : Char
  /-- The word in small letters, last character first; not empty. -/
  letters : List Char

/-- Puts an open word in front of the finished ones. -/
def closeWord (current : Option OpenWord) (done : List (List Char)) : List (List Char) :=
  match current with
  | some w => w.letters.reverse :: done
  | none => done

/-- Reads the words of a name; the finished ones stand in `done`, last first. -/
def readWords : Option OpenWord → List (List Char) → List Char → List (List Char)
  | current, done, [] => (closeWord current done).reverse
  | current, done, c :: rest =>
    if !Text.isAlphanumeric c then readWords none (closeWord current done) rest
    else
      let small := (Text.smallForm c).reverse
      match current with
      | none => readWords (some ⟨c, small⟩) done rest
      | some w =>
        if beginsWord w.previous c rest then
          readWords (some ⟨c, small⟩) (w.letters.reverse :: done) rest
        else readWords (some ⟨c, small ++ w.letters⟩) done rest

/-- The words of a name, in small letters (`name_tokens`). -/
def nameTokens (name : String) : List String := (readWords none [] name.toList).map String.ofList

/-- Whether a character separates the parts of an import. -/
def isImportSeparator (c : Char) : Bool :=
  c = '.' || c = '/' || c = '\\' || c = ':' || c = '@'

/-- The parts of an import between separators, in small ASCII letters (`import_segments`). -/
def importSegments (name : String) : List String :=
  ((name.toList.splitOnP isImportSeparator).filter (!·.isEmpty)).map fun s =>
    String.ofList (s.map Text.asciiSmall)

end Purpose
end SourceAtlas
