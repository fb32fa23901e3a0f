import SourceAtlas.Proofs.Resolve.Namespace

/-!
# Packages and their directories

An import of Go names a package, which is a directory with files of the language directly in it, and
one of these files stands for it.  Which directory is named depends on whether the project declares
a module: if it does, the name has to begin with the path of the module, up to a slash, and the rest
is the directory; if not, the directory is the longest end of the name that holds a package.

* `StandsFor` — the file for a package, the first one that is not a test if there is such a file.
* `NamesDir` — the directory for a name, in three cases.
* `goPackageFile_eq_some_iff`, `goPackageDir?_eq_some_iff` — one lemma for each step of the search.
* `findSome?_tails_eq_some_iff` — a search through the ends of a list, the longest first, that stops
  at the ends with a single member finds the longest end that has an answer.
* `resolveImport_package` — the answer to an import is the file that stands for the directory it
  names.
-/

namespace SourceAtlas
namespace Resolve

/-! ## The file of a package -/

/-- A file of the package that lies in a directory. -/
def InPackage (dir path : String) : Prop :=
  Path.parent path = dir ∧ Text.endsWith path ".go" = true

/-- A file that holds tests. -/
def IsTest (path : String) : Prop := Text.endsWith path "_test.go" = true

/-- A directory that holds a package. -/
def HoldsPackage (files : ProjectFiles) (dir : String) : Prop :=
  ∃ path ∈ files.paths, InPackage dir path

/-- The file that stands for a package: its first one that holds no tests; if all of them do, its
first one. -/
def StandsFor (files : ProjectFiles) (dir path : String) : Prop :=
  files.IsFirst (fun p => InPackage dir p ∧ ¬ IsTest p) path ∨
    (∀ other ∈ files.paths, InPackage dir other → IsTest other) ∧
      files.IsFirst (InPackage dir) path

variable {files : ProjectFiles} {dir path name modulePath : String}

theorem liesIn_go_iff (dir path : String) :
    ProjectFiles.liesIn dir ["go"] path = true ↔ InPackage dir path := by
  rw [ProjectFiles.liesIn, Bool.and_eq_true, beq_iff_eq,
    Path.hasExtension_singleton (by decide), InPackage]
  rfl

/-- The file that is picked in a directory is the one that stands for its package, … -/
theorem goPackageFile_eq_some_iff :
    goPackageFile files dir = some path ↔ StandsFor files dir path := by
  have hcode : ∀ p, decide (ProjectFiles.liesIn dir ["go"] p = true ∧
      (!Text.endsWith p "_test.go") = true) = true ↔ InPackage dir p ∧ ¬ IsTest p := by
    intro p
    rw [decide_eq_true_iff, liesIn_go_iff, IsTest, Bool.not_eq_true', Bool.not_eq_true]
  rw [goPackageFile, ProjectFiles.firstIn, List.find?_filter, List.head?_filter,
    Option.or_eq_some_iff, ProjectFiles.find?_eq_some_iff_isFirst hcode,
    ProjectFiles.find?_eq_some_iff_isFirst (liesIn_go_iff dir), StandsFor, List.find?_eq_none]
  simp only [hcode, not_and, not_not]

/-- … and none is picked only where there is no package. -/
theorem goPackageFile_eq_none_iff :
    goPackageFile files dir = none ↔ ¬ HoldsPackage files dir := by
  rw [goPackageFile, ProjectFiles.firstIn, Option.or_eq_none_iff, List.head?_filter,
    List.find?_filter, List.find?_eq_none, List.find?_eq_none, HoldsPackage]
  simp only [liesIn_go_iff]
  constructor
  · rintro ⟨-, hnone⟩ ⟨path, hmem, hpath⟩
    exact hnone path hmem hpath
  · intro hnone
    refine ⟨fun path hmem hpath => ?_, fun path hmem hpath => hnone ⟨path, hmem, hpath⟩⟩
    exact hnone ⟨path, hmem, (liesIn_go_iff dir path).1 (of_decide_eq_true hpath).1⟩

theorem exists_standsFor_iff : (∃ path, StandsFor files dir path) ↔ HoldsPackage files dir := by
  simp only [← goPackageFile_eq_some_iff]
  rw [← Option.isSome_iff_exists, Option.isSome_iff_ne_none, Ne, goPackageFile_eq_none_iff, not_not]

/-! ## The directory of a package -/

/-- Below the module of the project, the directory is what follows the path of the module. -/
theorem goPackageDir?_eq_some_iff :
    goPackageDir? modulePath name = some dir ↔
      name = modulePath ∧ dir = "" ∨ name = modulePath ++ "/" ++ dir := by
  have hlonger : modulePath ≠ modulePath ++ "/" ++ dir := by
    intro heq
    have hlength := congrArg String.length heq
    have hslash : "/".length = 1 := rfl
    simp only [String.length_append] at hlength
    omega
  unfold goPackageDir?
  split
  · rename_i heq
    simp [heq, hlonger, eq_comm]
  · rename_i hne
    rw [Option.map_eq_some_iff, or_iff_right (fun h => hne h.1)]
    simp only [Text.afterHead?_eq_some_iff]
    constructor
    · rintro ⟨rest, hname, rfl⟩
      rw [← String.toList_inj, hname]
      simp
    · intro hname
      exact ⟨dir.toList, by simp [hname], by simp⟩

/-- An end of a path with a property, such that no longer end has it. -/
def IsLongestEnd (p : List String → Prop) (segs below : List String) : Prop :=
  p below ∧ below <:+ segs ∧ ∀ longer, longer <:+ segs → below.length < longer.length → ¬ p longer

/-- A path that has the property is its own longest end. -/
theorem isLongestEnd_cons_of_pos {p : List String → Prop} {s : String} {segs below : List String}
    (h : p (s :: segs)) : IsLongestEnd p (s :: segs) below ↔ below = s :: segs := by
  constructor
  · rintro ⟨-, hsuffix, hlongest⟩
    refine hsuffix.eq_of_length (Nat.le_antisymm hsuffix.length_le ?_)
    exact Nat.le_of_not_lt fun hlt => hlongest _ (List.suffix_refl _) hlt h
  · rintro rfl
    refine ⟨h, List.suffix_refl _, fun longer hlonger hlt => ?_⟩
    exact absurd hlonger.length_le (Nat.not_le.2 hlt)

theorem isLongestEnd_cons_of_neg {p : List String → Prop} {s : String} {segs below : List String}
    (h : ¬ p (s :: segs)) : IsLongestEnd p (s :: segs) below ↔ IsLongestEnd p segs below := by
  constructor
  · rintro ⟨hbelow, hsuffix, hlongest⟩
    rcases List.suffix_cons_iff.1 hsuffix with rfl | hsuffix
    · exact absurd hbelow h
    · exact ⟨hbelow, hsuffix, fun longer hlonger =>
        hlongest longer (hlonger.trans (List.suffix_cons _ _))⟩
  · rintro ⟨hbelow, hsuffix, hlongest⟩
    refine ⟨hbelow, hsuffix.trans (List.suffix_cons _ _), fun longer hlonger hlt => ?_⟩
    rcases List.suffix_cons_iff.1 hlonger with rfl | hlonger
    · exact h
    · exact hlongest longer hlonger hlt

/-- A path has a slash if it has at least two segments. -/
theorem contains_slash_ofSegments {segs : List String} (hsegs : ∀ s ∈ segs, '/' ∉ s.toList) :
    Text.contains (Path.ofSegments segs) "/" = true ↔ 2 ≤ segs.length := by
  rw [Text.contains_slash]
  by_cases hne : segs = []
  · simp [hne, Path.ofSegments, Text.joinWith]
  · rw [Path.slash_mem_iff, Path.segments_ofSegments hne hsegs]

/-- The ends with at least two members are asked for in turn, the longest first. -/
theorem findSome?_tails_eq_some_iff {segs : List String} (hsegs : ∀ s ∈ segs, '/' ∉ s.toList)
    {ask : String → Option String} :
    (((nonemptyTails segs).map Path.ofSegments).takeWhile (Text.contains · "/")).findSome? ask =
        some path ↔
      ∃ below, 2 ≤ below.length ∧ ask (Path.ofSegments below) = some path ∧
        IsLongestEnd (fun ending => ask (Path.ofSegments ending) ≠ none) segs below := by
  induction segs with
  | nil =>
      simp only [nonemptyTails, List.map_nil, List.takeWhile_nil, List.findSome?_nil]
      constructor
      · intro h
        cases h
      · rintro ⟨below, hlong, -, -, hsuffix, -⟩
        rw [List.suffix_nil.1 hsuffix] at hlong
        cases hlong
  | cons s segs ih =>
      rw [nonemptyTails, List.map_cons, List.takeWhile_cons]
      by_cases hlong : 2 ≤ (s :: segs).length
      · rw [if_pos ((contains_slash_ofSegments hsegs).2 hlong), List.findSome?_cons]
        cases hask : ask (Path.ofSegments (s :: segs)) with
        | some answer =>
            have hends : ∀ below, IsLongestEnd (fun ending => ask (Path.ofSegments ending) ≠ none)
                (s :: segs) below ↔ below = s :: segs :=
              fun _ => isLongestEnd_cons_of_pos (by simp [hask])
            constructor
            · rintro ⟨⟩
              exact ⟨s :: segs, hlong, hask, (hends _).2 rfl⟩
            · rintro ⟨below, -, hbelow, hlongest⟩
              rwa [(hends below).1 hlongest, hask] at hbelow
        | none =>
            have hends : ∀ below, IsLongestEnd (fun ending => ask (Path.ofSegments ending) ≠ none)
                (s :: segs) below ↔ IsLongestEnd (fun ending => ask (Path.ofSegments ending) ≠ none)
                segs below :=
              fun _ => isLongestEnd_cons_of_neg (by simp [hask])
            simp only [hends]
            exact ih fun t ht => hsegs t (List.mem_cons_of_mem _ ht)
      · rw [if_neg fun h => hlong ((contains_slash_ofSegments hsegs).1 h)]
        constructor
        · intro h
          cases h
        · rintro ⟨below, hbelow, -, -, hsuffix, -⟩
          exact absurd (hbelow.trans hsuffix.length_le) hlong

/-- The directory that an import names. -/
inductive NamesDir (files : ProjectFiles) (name : String) : String → Prop
  /-- The name of the module stands for its root. -/
  | root : files.goModule = some name → NamesDir files name ""
  /-- A longer name leads to a directory below it. -/
  | below {modulePath dir : String} : files.goModule = some modulePath →
      name = modulePath ++ "/" ++ dir → NamesDir files name dir
  /-- Without a module, the longest end of the name that holds a package; an end is the whole name
  or has at least two segments. -/
  | ending {segs : List String} : files.goModule = none →
      (2 ≤ segs.length ∨ segs = Path.segments name) →
      IsLongestEnd (fun ending => HoldsPackage files (Path.ofSegments ending))
        (Path.segments name) segs →
      NamesDir files name (Path.ofSegments segs)

/-- **With a module, an import means the package in the directory that it names below the module.**
-/
theorem go_eq_some_iff_of_module (h : files.goModule = some modulePath) :
    go name files = some path ↔ ∃ dir, NamesDir files name dir ∧ StandsFor files dir path := by
  rw [go, h]
  simp only [Option.bind_eq_some_iff, goPackageDir?_eq_some_iff, goPackageFile_eq_some_iff]
  refine exists_congr fun dir => and_congr_left fun _ => ?_
  constructor
  · rintro (⟨rfl, rfl⟩ | hname)
    · exact .root h
    · exact .below h hname
  · rintro (hroot | ⟨hbelow, hname⟩ | ⟨hnone, -, -⟩)
    · left
      exact ⟨Option.some_inj.1 (hroot.symm.trans h), rfl⟩
    · right
      rw [Option.some_inj.1 (h.symm.trans hbelow)]
      exact hname
    · rw [h] at hnone
      cases hnone

/-- Without a module, the directory is an end of the name. -/
theorem exists_namesDir_iff (h : files.goModule = none) :
    (∃ dir, NamesDir files name dir ∧ StandsFor files dir path) ↔
      ∃ segs, (2 ≤ segs.length ∨ segs = Path.segments name) ∧
        goPackageFile files (Path.ofSegments segs) = some path ∧
        IsLongestEnd (fun ending => goPackageFile files (Path.ofSegments ending) ≠ none)
          (Path.segments name) segs := by
  simp only [Ne, goPackageFile_eq_none_iff, not_not, goPackageFile_eq_some_iff]
  constructor
  · rintro ⟨dir, hroot | ⟨hbelow, -⟩ | ⟨-, hlong, hlongest⟩, hpath⟩
    · rw [h] at hroot
      cases hroot
    · rw [h] at hbelow
      cases hbelow
    · exact ⟨_, hlong, hpath, hlongest⟩
  · rintro ⟨segs, hlong, hpath, hlongest⟩
    exact ⟨_, .ending h hlong hlongest, hpath⟩

/-- **Without a module, it means the package in the longest end of its path that is one.** -/
theorem go_eq_some_iff_of_none (h : files.goModule = none) :
    go name files = some path ↔ ∃ dir, NamesDir files name dir ∧ StandsFor files dir path := by
  have hslash : ∀ s ∈ Path.segments name, '/' ∉ s.toList :=
    fun _ => Path.slash_not_mem_of_mem_segments
  rw [exists_namesDir_iff h, go, h]
  by_cases hone : (Path.segments name).length = 1
  · obtain ⟨own, hown⟩ := List.length_eq_one_iff.1 hone
    simp only [hown, nonemptyTails, List.map_cons, List.map_nil, List.length_singleton,
      decide_true, Bool.or_true, List.takeWhile_cons, if_true, List.takeWhile_nil,
      List.findSome?_singleton]
    constructor
    · intro hfile
      exact ⟨[own], .inr rfl, hfile, (isLongestEnd_cons_of_pos (by simp [hfile])).2 rfl⟩
    · rintro ⟨segs, hlong | rfl, hfile, -, hsuffix, -⟩
      · exact absurd (hlong.trans hsuffix.length_le) (by simp)
      · exact hfile
  · have hlength := Path.length_segments_pos name
    have hwhole : ∀ segs, 2 ≤ segs.length ∨ segs = Path.segments name ↔ 2 ≤ segs.length := by
      refine fun segs => or_iff_left_of_imp ?_
      rintro rfl
      omega
    simp only [hone, decide_false, Bool.or_false, hwhole]
    exact findSome?_tails_eq_some_iff hslash

end Resolve

open Resolve

/-- **Imports of Go.**  An import resolves to the file that stands for the directory it names, and
it resolves to some file exactly if it names a directory that holds a package. -/
theorem resolveImport_package (files : ProjectFiles) (name importer : String) :
    (∀ path, resolveImport .go name importer files = some path ↔
      ∃ dir, NamesDir files name dir ∧ StandsFor files dir path) ∧
    ((resolveImport .go name importer files).isSome = true ↔
      ∃ dir, NamesDir files name dir ∧ HoldsPackage files dir) := by
  have hpaths : ∀ path, resolveImport .go name importer files = some path ↔
      ∃ dir, NamesDir files name dir ∧ StandsFor files dir path := by
    intro path
    rw [resolveImport_of_family (show ImportFamily.of? .go = some .go by decide),
      ImportFamily.resolve]
    cases h : files.goModule with
    | some modulePath => exact go_eq_some_iff_of_module h
    | none => exact go_eq_some_iff_of_none h
  refine ⟨hpaths, ?_⟩
  rw [Option.isSome_iff_exists]
  simp only [hpaths]
  rw [exists_comm]
  refine exists_congr fun dir => ?_
  rw [exists_and_left, ← exists_standsFor_iff]

example :
    resolveImport .go "example.com/app/util" "main.go"
        ⟨["util/x.go", "app/util/a_test.go", "app/util/b.go"], none⟩ = some "app/util/b.go" := by
  decide +kernel

end SourceAtlas
