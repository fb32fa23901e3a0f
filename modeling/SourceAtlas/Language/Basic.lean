/-!
# Languages

The languages that a scanned file may be written in.  Each has a *tag*, the spelling used in records
and on the command line, and a display name for prose.  The order of the constructors is the order
in which languages are listed.
-/

namespace SourceAtlas

/-- The source language of a file (`LanguageTag`). -/
inductive Language where
  | python | javaScript | typeScript | java | kotlin | c | cpp | cSharp | go | rust | ruby | php
  | swift | dart | scala | shell | powerShell
  /-- A file of no known language. -/
  | unknown
  deriving DecidableEq, Repr

namespace Language

/-- All languages, in listing order. -/
def all : List Language :=
  [python, javaScript, typeScript, java, kotlin, c, cpp, cSharp, go, rust, ruby, php, swift, dart,
   scala, shell, powerShell, unknown]

/-- The spelling of a language in records. -/
def tag : Language → String
  | python => "python"
  | javaScript => "javascript"
  | typeScript => "typescript"
  | java => "java"
  | kotlin => "kotlin"
  | c => "c"
  | cpp => "cpp"
  | cSharp => "csharp"
  | go => "go"
  | rust => "rust"
  | ruby => "ruby"
  | php => "php"
  | swift => "swift"
  | dart => "dart"
  | scala => "scala"
  | shell => "shell"
  | powerShell => "powershell"
  | unknown => "unknown"

/-- The name of a language in prose. -/
def displayName : Language → String
  | python => "Python"
  | javaScript => "JavaScript"
  | typeScript => "TypeScript"
  | java => "Java"
  | kotlin => "Kotlin"
  | c => "C"
  | cpp => "C++"
  | cSharp => "C#"
  | go => "Go"
  | rust => "Rust"
  | ruby => "Ruby"
  | php => "PHP"
  | swift => "Swift"
  | dart => "Dart"
  | scala => "Scala"
  | shell => "Shell Script"
  | powerShell => "PowerShell"
  | unknown => "Unknown"

/-- The language with a given tag. -/
def ofTag? (s : String) : Option Language := all.find? (·.tag == s)

/-- The languages that can be recognised. -/
def supported : List Language := all.filter (· ≠ unknown)

/-- The place of a language in listing order. -/
def rank (l : Language) : Nat := all.idxOf l

end Language

end SourceAtlas
