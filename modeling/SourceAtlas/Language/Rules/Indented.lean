import SourceAtlas.Language.Rule

/-!
# Rules of languages that nest by indentation
-/

namespace SourceAtlas
namespace Rule

open Pattern

/-- One name of an import list, perhaps with an alias. -/
def aliasedModule : List Pattern :=
  [dottedName, optional [gap, text "as", gap, many1 Text.isWordChar]]

/-- Python: documentation strings count as comments. -/
def python : Rule where
  language := .python
  extensions := ["py", "pyi", "pyw"]
  classes := [line [keyword "class", captured [name], blanks, oneOf ":("]]
  functions := [line [optionalKeyword "async", keyword "def", captured [name], blanks, text "("]]
  imports :=
    [line [keyword "from",
        captured [anyOf [all [many1 (· == '.'), many (wordOr ".")], dottedName]],
        gap, text "import", wordEdge],
     line [keyword "import",
        captured (aliasedModule ++ [repeated ([blanks, text ",", blanks] ++ aliasedModule)])]]
  importBlock := none
  reserved := []
  nesting := .indentation
  memberScopes := []
  methods := []
  delimiters := Delimiters.ofStrings ["#"] [("\"\"\"", "\"\"\""), ("'''", "'''")] "\"'" ""

/-- A loading command with a quoted path. -/
def rubyLoad (command : String) : Pattern :=
  line [text command, blanks, optional [text "("], blanks, oneOf "'\"",
    captured [many1 (except "'\"")], oneOf "'\""]

/-- Ruby: modules count as types, and a method name may end in a mark. -/
def ruby : Rule where
  language := .ruby
  extensions := ["rb", "rake", "gemspec"]
  classes :=
    [line [anyText ["class", "module"], gap, repeated [capitalName, text "::"],
      captured [capitalName]]]
  functions := [line [keyword "def", optional [text "self."],
    captured [name, optional [oneOf "?!="]]]]
  imports := [rubyLoad "require_relative", rubyLoad "require", rubyLoad "load"]
  importBlock := none
  reserved := []
  nesting := .indentation
  memberScopes := []
  methods := []
  delimiters := Delimiters.ofStrings ["#"] [("=begin", "=end")] "\"'" ""

end Rule
end SourceAtlas
