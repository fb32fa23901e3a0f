import SourceAtlas.Language.Rule

/-!
# Rules of languages compiled to machine code
-/

namespace SourceAtlas
namespace Rule

open Pattern

/-- Words that stand before a parenthesis without naming a function. -/
def nativeReserved : List String :=
  ["if", "for", "while", "switch", "return", "sizeof", "else", "catch", "delete", "new",
   "operator", "defined"]

/-- The inclusion of a header. -/
def includeLine : Pattern :=
  line [text "#", blanks, text "include", blanks, oneOf "<\"", captured [many1 (except ">\"")],
    oneOf ">\""]

/-- C. -/
def c : Rule where
  language := .c
  extensions := ["c", "h"]
  classes :=
    [line [optionalKeyword "typedef", anyText ["struct", "union", "enum"], gap, captured [name],
      blanks, optional [text "\x7b", blanks], lineEnd]]
  functions :=
    [line [modifiers ["static", "inline", "extern", "const", "unsigned", "signed", "struct", "enum",
        "volatile"],
      name, many1 (blankOr "*"), captured [name], blanks, text "(", many (except ";"), text ")",
      blanks, optional [text "\x7b"], blanks, lineEnd]]
  imports := [includeLine]
  importBlock := none
  reserved := nativeReserved
  nesting := .braces
  memberScopes := []
  methods := []
  delimiters := Delimiters.slashStyle

/-- The head of a template. -/
def templateHead : Pattern :=
  optional [text "template", blanks, text "<", many (except ">"), text ">", blanks]

/-- The return type and the qualifying scopes of a member defined outside its type. -/
def qualifiedMember : List Pattern :=
  [optional [many1 (wordOr ":<>,"), many1 (blankOr "*&")], repeatedOnce [name, text "::"],
   optional [text "~"]]

/-- A word of a function head, with blanks after it. -/
def trailingWord (s : String) : Pattern := optional [text s, blanks]

/-- C++: a definition qualified by a type's name is a member wherever it stands. -/
def cpp : Rule where
  language := .cpp
  extensions := ["cpp", "cc", "cxx", "c++", "hpp", "hh", "hxx", "h", "ipp", "inl"]
  classes :=
    [line [templateHead, anyText ["class", "struct", "union"], gap,
      optional [many1 fun ch => ch.isUpper || ch == '_', gap], captured [name], blanks,
      trailingWord "final", optional [text ":", many (except ";")],
      optional [text "\x7b", many (except "\n")], lineEnd],
     line [keyword "enum", optional [anyOf [keyword "class", keyword "struct"]], captured [name],
      blanks, optional [text ":", blanks, many1 (wordOr ":"), blanks],
      optional [text "\x7b", many (except "\n")], lineEnd]]
  functions :=
    [line [templateHead, modifiers ["static", "inline", "virtual", "extern", "constexpr",
        "explicit", "friend", "const", "unsigned", "signed"],
      one nameStart, many (wordOr ":<>,"), many1 (blankOr "*&"), captured [name], blanks, text "(",
      many (except ";"), text ")", blanks, trailingWord "const", trailingWord "noexcept",
      trailingWord "override", trailingWord "final", optional [text "\x7b"], blanks, lineEnd],
     line (qualifiedMember ++ [captured [name], blanks, text "(", many (except ";"), lineEnd])]
  imports := [includeLine]
  importBlock := none
  reserved := nativeReserved
  nesting := .braces
  memberScopes := []
  methods := [line (qualifiedMember ++ [name, blanks, text "("])]
  delimiters := Delimiters.slashStyle

/-- An imported path between double quotes, perhaps after a local name. -/
def goImported : List Pattern :=
  [optional [many1 (wordOr "."), gap], text "\"", captured [many1 (except "\"")], text "\""]

/-- Go: a function with a receiver is a member. -/
def go : Rule where
  language := .go
  extensions := ["go"]
  classes :=
    [line [keyword "type", captured [name], optional [text "[", many (except "]"), text "]"], gap,
      anyText ["struct", "interface"], wordEdge]]
  functions :=
    [line [keyword "func", optional [text "(", many (except ")"), text ")", blanks],
      captured [name], blanks, oneOf "(["]]
  imports := [line (keyword "import" :: goImported)]
  importBlock := some
    { opener := line [text "import", blanks, text "(", blanks, lineEnd]
      entry := line goImported
      closer := ")".toList }
  reserved := []
  nesting := .braces
  memberScopes := []
  methods := [line [text "func", blanks, text "("]]
  delimiters := Delimiters.slashStyleWithTemplates

/-- A visibility, perhaps with a restriction in parentheses. -/
def rustVisibility : Pattern :=
  optional [text "pub", optional [text "(", many (except ")"), text ")"], gap]

/-- Rust: the single quote also opens lifetimes, so only double quotes delimit strings. -/
def rust : Rule where
  language := .rust
  extensions := ["rs"]
  classes :=
    [line [rustVisibility, optionalKeyword "unsafe", anyText ["struct", "enum", "trait", "union"],
      gap, captured [name]]]
  functions :=
    [line [rustVisibility, optionalKeyword "default", optionalKeyword "const",
      optionalKeyword "async", optionalKeyword "unsafe",
      optional [keyword "extern", optional [text "\"", many (except "\""), text "\"", gap]],
      keyword "fn", captured [name]]]
  imports :=
    [line [rustVisibility, keyword "use",
      captured [optional [text "::"], name, repeated [text "::", name]]],
     line [keyword "extern", keyword "crate", captured [name]]]
  importBlock := none
  reserved := []
  nesting := .braces
  memberScopes := [line [optionalKeyword "unsafe", text "impl", wordEdge]]
  methods := []
  delimiters := Delimiters.ofStrings ["//"] [("/*", "*/")] "\"" ""

/-- Attributes in front of a declaration. -/
def swiftAttributes : Pattern := repeated [text "@", many1 Text.isWordChar, gap]

/-- Swift: `class func` and `class var` look like the declaration of a type, so their second words
are reserved. -/
def swift : Rule where
  language := .swift
  extensions := ["swift"]
  classes :=
    [line [swiftAttributes, modifiers ["public", "private", "fileprivate", "internal", "open",
        "final", "indirect"],
      anyText ["class", "struct", "enum", "protocol", "actor"], gap, captured [name]]]
  functions :=
    [line [swiftAttributes, modifiers ["public", "private", "fileprivate", "internal", "open",
        "final", "static", "class", "override", "mutating", "nonmutating", "convenience",
        "required", "dynamic"],
      keyword "func", captured [name]]]
  imports :=
    [line [optionalKeyword "@testable", keyword "import",
      optional [anyText ["class", "struct", "enum", "protocol", "func", "var", "typealias"], gap],
      captured [dottedName]]]
  importBlock := none
  reserved := ["func", "var", "let"]
  nesting := .braces
  memberScopes :=
    [line [optional [anyText ["public", "private", "fileprivate", "internal", "open"], gap],
      text "extension", one Text.isBlank]]
  methods := []
  delimiters := Delimiters.ofStrings ["//"] [("/*", "*/"), ("\"\"\"", "\"\"\"")] "\"" ""

end Rule
end SourceAtlas
