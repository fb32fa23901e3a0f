import SourceAtlas.Language.Basic
import SourceAtlas.Resolve.Crate
import SourceAtlas.Resolve.Namespace
import SourceAtlas.Resolve.Relative

/-!
# Import resolution

Which file of the project an import means.  Languages with the same conventions form a family.  When
the language has no family, or its family cannot place an import, the import leaves the project.
-/

namespace SourceAtlas

/-- The conventions by which imports are resolved. -/
inductive ImportFamily where
  | python | script | native | jvm | cSharp | go | rust | ruby | php | swift
  deriving DecidableEq, Repr

namespace ImportFamily

/-- All families, in the order in which they are asked. -/
def all : List ImportFamily := [python, script, native, jvm, cSharp, go, rust, ruby, php, swift]

/-- The languages of a family. -/
def languages : ImportFamily → List Language
  | python => [.python]
  | script => [.javaScript, .typeScript]
  | native => [.c, .cpp]
  | jvm => [.java, .kotlin]
  | cSharp => [.cSharp]
  | go => [.go]
  | rust => [.rust]
  | ruby => [.ruby]
  | php => [.php]
  | swift => [.swift]

/-- The family of a language (`ImportResolverRegistry.get`). -/
def of? (l : Language) : Option ImportFamily := all.find? (·.languages.contains l)

/-- The file that an import of `importer` means. -/
def resolve (family : ImportFamily) (name importer : String) (files : ProjectFiles) :
    Option String :=
  match family with
  | python => files.firstExisting (Resolve.pythonCandidates name importer)
  | script => files.firstExisting (Resolve.scriptCandidates name importer)
  | native => Resolve.native name importer files
  | jvm => Resolve.jvm name files
  | cSharp => Resolve.cSharp name files
  | go => Resolve.go name files
  | rust => files.firstExisting (Resolve.crateCandidates name importer)
  | ruby => files.firstExisting (Resolve.rubyCandidates name importer)
  | php => Resolve.php name importer files
  | swift => Resolve.swift name files

end ImportFamily

/-- The file of the project that an import means (`ImportResolverRegistry.resolve`); none when it
leaves the project. -/
def resolveImport (l : Language) (name importer : String) (files : ProjectFiles) : Option String :=
  (ImportFamily.of? l).bind fun family => family.resolve name importer files

end SourceAtlas
