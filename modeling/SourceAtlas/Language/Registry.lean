import SourceAtlas.Language.Rules.Indented
import SourceAtlas.Language.Rules.Managed
import SourceAtlas.Language.Rules.Native
import SourceAtlas.Language.Rules.Script
import SourceAtlas.Path.Basic
import SourceAtlas.Text.Case

/-!
# The registry of languages

Which extraction rule a language has, and which language a file name stands for.  Languages register
in a fixed order, and an extension claimed by several of them belongs to the first.  Extensions are
compared without regard to the case of ASCII letters.
-/

namespace SourceAtlas
namespace Registry

/-- The extraction rules, in registration order. -/
def rules : List Rule :=
  [Rule.python, Rule.typeScript, Rule.javaScript, Rule.java, Rule.kotlin, Rule.cpp, Rule.c,
   Rule.cSharp, Rule.go, Rule.rust, Rule.ruby, Rule.php, Rule.swift]

/-- Languages that are recognised by their extensions only: their files have lines but no
outline. -/
def outlineFree : List (Language × List String) :=
  [(.dart, ["dart"]), (.scala, ["scala", "sc"]), (.shell, ["sh", "bash", "zsh"]),
   (.powerShell, ["ps1", "psm1", "psd1"])]

/-- All extensions with their languages, in registration order. -/
def registered : List (String × Language) :=
  (rules.map (fun r => (r.language, r.extensions)) ++ outlineFree).flatMap
    fun (language, extensions) => extensions.map (·, language)

/-- The rule of a language, if it has one. -/
def rule? (l : Language) : Option Rule := rules.find? (·.language = l)

/-- The delimiters of a language; a language without a rule has none. -/
def delimiters (l : Language) : Delimiters := ((rule? l).map (·.delimiters)).getD Delimiters.empty

/-- The language that owns an extension, whatever the case of its letters (`lookup`). -/
def owner? (extension : String) : Option Language :=
  (registered.find? (·.1 == Text.asciiLowered extension)).map (·.2)

/-- Every text after a dot of a file name, the longest first. -/
def suffixes : List Char → List (List Char)
  | [] => []
  | c :: rest => if c = '.' then rest :: suffixes rest else suffixes rest

/-- The language of a file name, by its longest known extension (`LanguageRegistry.detect`). -/
def detect (fileName : String) : Language :=
  (((suffixes fileName.toList).filter (!·.isEmpty)).findSome? (owner? <| String.ofList ·)).getD
    .unknown

/-- The language of the file that a path names (`detect_path`); a path that names no file has
none. -/
def detectPath (path : String) : Language := ((Path.fileName? path).map detect).getD .unknown

/-- The extensions owned by a language, sorted (`extensions_for`). -/
def extensionsOf (l : Language) : List String :=
  (((registered.map (·.1)).eraseDups).filter (owner? · = some l)).mergeSort (· ≤ ·)

/-- All known extensions, sorted (`supported_extensions`). -/
def extensions : List String := (registered.map (·.1)).eraseDups.mergeSort (· ≤ ·)

end Registry
end SourceAtlas
