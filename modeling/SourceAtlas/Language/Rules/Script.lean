import SourceAtlas.Language.Rule

/-!
# Rules of web scripting languages
-/

namespace SourceAtlas
namespace Rule

open Pattern

/-- Words that stand before a parenthesis without naming a function. -/
def scriptReserved : List String :=
  ["if", "for", "while", "switch", "catch", "return", "function", "with", "else", "do", "new",
   "typeof", "await", "super", "constructor"]

/-- A path between quotes, as the group. -/
def quotedPath : List Pattern :=
  [oneOf "'\"", captured [many1 (except "'\"")], oneOf "'\""]

/-- An annotation that runs up to an equals sign. -/
def typeAnnotation : Pattern := optional [text ":", many1 (except "=")]

/-- The four shapes of a function: declaration, bound function value, function-valued property, and
method.  A parameter list that holds parentheses or quotes is a call taking a callback. -/
def scriptFunctions : List Pattern :=
  [line [optionalKeyword "export", optionalKeyword "default", optionalKeyword "async",
      text "function", blanks, optional [text "*"], blanks, captured [dollarName], blanks,
      oneOf "(<"],
   line [optionalKeyword "export", anyText ["const", "let", "var"], gap, captured [dollarName],
      blanks, typeAnnotation, text "=", blanks, optionalKeyword "async",
      anyOf
        [all [text "function", wordEdge],
         all [text "(", many (except ")"), text ")", blanks, typeAnnotation, text "=>"],
         all [dollarName, blanks, text "=>"]]],
   line [captured [dollarName], blanks, text ":", blanks, optionalKeyword "async",
      text "function", blanks, text "("],
   line [modifiers
        ["public", "private", "protected", "static", "async", "readonly", "override", "get", "set"],
      captured [dollarName], blanks, optional [text "<", many (except ">"), text ">"], blanks,
      text "(", many (except "()'\"`"), text ")", blanks,
      optional [text ":", blanks, many1 (except "\x7b=;")], text "\x7b", blanks, lineEnd]]

/-- Static imports, re-exports, and the two call forms. -/
def scriptImports : List Pattern :=
  [line ([keyword "import", optionalKeyword "type",
      optional [fewest (except "'\""), gap, text "from", gap]] ++ quotedPath),
   line ([text "\x7d", blanks, text "from", gap] ++ quotedPath),
   line ([keyword "export", fewest (except "'\""), gap, text "from", gap] ++ quotedPath),
   all ([wordEdge, text "require", blanks, text "(", blanks] ++ quotedPath ++ [blanks, text ")"]),
   all ([wordEdge, text "import", blanks, text "(", blanks] ++ quotedPath ++ [blanks, text ")"])]

/-- JavaScript. -/
def javaScript : Rule where
  language := .javaScript
  extensions := ["js", "jsx", "mjs", "cjs"]
  classes :=
    [line [optionalKeyword "export", optionalKeyword "default", keyword "class",
      captured [dollarName]]]
  functions := scriptFunctions
  imports := scriptImports
  importBlock := none
  reserved := scriptReserved
  nesting := .braces
  memberScopes := []
  methods := []
  delimiters := Delimiters.slashStyleWithTemplates

/-- TypeScript: interfaces and enumerations count as types. -/
def typeScript : Rule :=
  { javaScript with
    language := .typeScript
    extensions := ["ts", "tsx", "mts", "cts", "d.ts"]
    classes :=
      [line [optionalKeyword "export", optionalKeyword "default", optionalKeyword "declare",
        optionalKeyword "abstract", keyword "class", captured [dollarName]],
       line [optionalKeyword "export", optionalKeyword "declare", optionalKeyword "const",
        anyText ["interface", "enum"], gap, captured [dollarName]]] }

/-- PHP: imports are namespace uses and file inclusions. -/
def php : Rule where
  language := .php
  extensions := ["php", "phtml"]
  classes :=
    [line [modifiers ["abstract", "final", "readonly"],
      anyText ["class", "interface", "trait", "enum"], gap, captured [name]]]
  functions :=
    [line [modifiers ["public", "private", "protected", "static", "abstract", "final"],
      text "function", gap, optional [text "&"], blanks, captured [name], blanks, text "("]]
  imports :=
    [line [keyword "use", optional [anyOf [keyword "function", keyword "const"]],
      optional [text "\\"], captured [one nameStart, many (wordOr "\\")]],
     line ([anyText ["require", "require_once", "include", "include_once"], blanks,
      optional [text "("], blanks, optional [text "__DIR__", blanks, text ".", blanks]] ++
      quotedPath)]
  importBlock := none
  reserved := []
  nesting := .braces
  memberScopes := []
  methods := []
  delimiters := Delimiters.ofStrings ["//", "#"] [("/*", "*/")] "\"'" ""

end Rule
end SourceAtlas
