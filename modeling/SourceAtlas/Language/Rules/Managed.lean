import SourceAtlas.Language.Rule

/-!
# Rules of languages for managed runtimes
-/

namespace SourceAtlas
namespace Rule

open Pattern

/-- The rest of the line, without a semicolon. -/
def noSemicolonToEnd : List Pattern := [many (except ";"), lineEnd]

/-- Java.  The return type of a method is a primitive or a capitalised, possibly qualified type, so
that statements such as `return call(a,` are no declarations. -/
def java : Rule where
  language := .java
  extensions := ["java"]
  classes :=
    [line [modifiers ["public", "private", "protected", "static", "final", "abstract", "sealed",
        "non-sealed", "strictfp"],
      anyText ["class", "interface", "enum", "record", "@interface"], gap, captured [dollarName]]]
  functions :=
    [line ([modifiers ["public", "private", "protected", "static", "final", "abstract",
          "synchronized", "native", "default", "strictfp"],
        optional [text "<", many1 (except ">"), text ">", gap],
        anyOf ((["void", "boolean", "byte", "char", "short", "int", "long", "float", "double",
            "var"].map text) ++
          [all [repeated [one fun c => c.isLower || c == '_' || c == '$', many (wordOr "$"),
              text "."],
            one fun c => c.isUpper || c == '_' || c == '$', many (wordOr "$")]]),
        optional [text "<", many (except "()"), text ">"], repeated [text "[]"], gap,
        captured [dollarName], blanks, text "("] ++ noSemicolonToEnd),
     line ([anyText ["public", "private", "protected"], gap,
        captured [one Char.isUpper, many (wordOr "$")], blanks, text "("] ++ noSemicolonToEnd)]
  imports :=
    [line [keyword "import", optionalKeyword "static",
      captured [many1 (wordOr "."), optional [text ".*"]], blanks, text ";"]]
  importBlock := none
  reserved :=
    ["if", "for", "while", "switch", "catch", "return", "new", "else", "throw", "synchronized",
     "try"]
  nesting := .braces
  memberScopes := []
  methods := []
  delimiters := Delimiters.slashStyle

/-- Kotlin: a companion object is a body of members without a name of its own. -/
def kotlin : Rule where
  language := .kotlin
  extensions := ["kt", "kts"]
  classes :=
    [line [modifiers ["public", "private", "protected", "internal", "open", "abstract", "sealed",
        "data", "enum", "annotation", "inner", "value", "final", "expect", "actual"],
      anyText ["class", "interface", "object"], gap, captured [name]]]
  functions :=
    [line [modifiers ["public", "private", "protected", "internal", "open", "override", "abstract",
        "final", "suspend", "inline", "operator", "infix", "tailrec", "external", "actual",
        "expect"],
      keyword "fun", optional [text "<", many1 (except ">"), text ">", blanks],
      optional [many1 (wordOr ".<>?"), text "."], captured [name], blanks, text "("]]
  imports :=
    [line [keyword "import",
      captured [name, repeated [text ".", name], optional [text ".*"]]]]
  importBlock := none
  reserved := []
  nesting := .braces
  memberScopes :=
    [line [optional [anyText ["public", "private", "protected", "internal"], gap],
      keyword "companion", text "object", wordEdge]]
  methods := []
  delimiters :=
    Delimiters.ofStrings ["//"] [("/*", "*/"), ("\"\"\"", "\"\"\"")] "\"'" ""

/-- C#: attributes may stand before a type. -/
def cSharp : Rule where
  language := .cSharp
  extensions := ["cs", "csx"]
  classes :=
    [line [repeated [text "[", many (except "]"), text "]", blanks],
      modifiers ["public", "private", "protected", "internal", "static", "sealed", "abstract",
        "partial", "readonly", "ref", "unsafe", "new", "file"],
      anyOf [text "class", text "interface", text "struct", text "enum",
        all [text "record", optional [anyOf [all [gap, text "struct"], all [gap, text "class"]]]]],
      gap, captured [name]]]
  functions :=
    [line ([modifiers ["public", "private", "protected", "internal", "static", "virtual",
          "override", "abstract", "sealed", "async", "extern", "unsafe", "new", "partial",
          "readonly"],
        many1 (wordOr ".<>[],?"), gap, captured [name], blanks,
        optional [text "<", many (except ">"), text ">"], blanks, text "("] ++ noSemicolonToEnd),
     line ([anyText ["public", "private", "protected", "internal", "static"], gap,
        captured [capitalName], blanks, text "("] ++ noSemicolonToEnd)]
  imports :=
    [line [optionalKeyword "global", keyword "using", optionalKeyword "static",
      optional [name, blanks, text "=", blanks], captured [dottedName], blanks, text ";"]]
  importBlock := none
  reserved :=
    ["if", "for", "foreach", "while", "switch", "catch", "return", "using", "lock", "new",
     "nameof", "typeof", "else", "await", "throw", "fixed"]
  nesting := .braces
  memberScopes := []
  methods := []
  delimiters := Delimiters.slashStyle

end Rule
end SourceAtlas
