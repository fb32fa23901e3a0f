import SourceAtlas.Proofs.Graph.Queries
import SourceAtlas.Proofs.Model.Aggregates
import SourceAtlas.Proofs.Model.Packages
import SourceAtlas.Proofs.Resolve.Membership
import SourceAtlas.Proofs.Text.Utf8

/-!
# The packages that a project depends on

The imports that leave a project belong to packages, and these are listed: the well-known ones
first, each group in ascending order.  The list depends on nothing but which edges there are.

* `externalRoots` — the packages before they are grouped; `mem_externalDependencies` — which
  packages are listed; `externalDependencies_congr` — on what the list depends.
* `externalDependencies_exact` — what the list holds and in which order, and what a package is.
* `mem_externalDependencies_of_files` — for the graph of a project: the packages of the imports that
  resolve to no file.
* `externalDependencies_relative` — relative imports: those that begin with a dot or a slash belong
  to no package, but those that begin with `crate`, `self` or `super` belong to a package of this
  name, which is listed as soon as one of them resolves to no file.
* `externalDependencies_own` — a project for which its own crate is listed as a package.
-/

namespace SourceAtlas

/-- A library that is listed before others, in whichever case it is written. -/
def IsWellKnown (root : String) : Prop := Text.asciiLowered root ∈ wellKnownLibraries

instance (root : String) : Decidable (IsWellKnown root) :=
  inferInstanceAs (Decidable (Text.asciiLowered root ∈ wellKnownLibraries))

namespace ProjectModel

variable {m m' : ProjectModel} {root : String}

/-! ## The list -/

/-- The packages of the imports that leave a project, in ascending order. -/
def externalRoots (m : ProjectModel) : List String :=
  sortedSet ((m.graph.externalEdges.filterMap (importRoot? ·.label)).filter
    (!trivialImports.contains ·))

theorem externalDependencies_eq (m : ProjectModel) :
    m.externalDependencies = m.externalRoots.filter (fun root => IsWellKnown root) ++
      m.externalRoots.filter (fun root => !decide (IsWellKnown root)) := by
  have hknown : ∀ root, wellKnownLibraries.contains (Text.asciiLowered root) =
      decide (IsWellKnown root) := fun root => List.contains_eq_mem _ _
  unfold externalDependencies externalRoots
  simp only [hknown]

theorem mem_externalRoots :
    root ∈ m.externalRoots ↔ root ∉ trivialImports ∧
      ∃ e ∈ m.graph.edges, e.target = .external ∧ importRoot? e.label = some root := by
  unfold externalRoots
  rw [mem_sortedSet, List.mem_filter, List.mem_filterMap]
  simp only [Graph.mem_externalEdges, and_assoc]
  simp [and_comm]

theorem perm_externalDependencies (m : ProjectModel) :
    m.externalDependencies.Perm m.externalRoots := by
  rw [externalDependencies_eq]
  exact List.filter_append_perm _ _

theorem mem_externalDependencies :
    root ∈ m.externalDependencies ↔ root ∉ trivialImports ∧
      ∃ e ∈ m.graph.edges, e.target = .external ∧ importRoot? e.label = some root := by
  rw [(perm_externalDependencies m).mem_iff, mem_externalRoots]

theorem nodup_externalDependencies (m : ProjectModel) : m.externalDependencies.Nodup :=
  (perm_externalDependencies m).nodup_iff.2 (nodup_sortedSet _)

/-- Only which edges there are counts, not their order or how often they occur. -/
theorem externalDependencies_congr (h : ∀ e, e ∈ m'.graph.edges ↔ e ∈ m.graph.edges) :
    m'.externalDependencies = m.externalDependencies := by
  have hroots : m'.externalRoots = m.externalRoots := by
    unfold externalRoots
    refine sortedSet_congr fun root => ?_
    simp only [List.mem_filter, List.mem_filterMap, Graph.mem_externalEdges, h]
  rw [externalDependencies_eq, externalDependencies_eq, hroots]

/-- A part of the list is in ascending order of octets. -/
theorem filter_externalRoots_increasing (m : ProjectModel) (p : String → Bool) :
    (m.externalRoots.filter p).Pairwise fun a b => Text.encode a < Text.encode b :=
  ((sortedSet_increasing _).filter p).imp Text.encode_lt_iff.2

/-- **The packages that a project depends on.**  The list holds each package of the imports that
leave the project once, but for the trivial ones; it begins with the well-known libraries, and these
and the others are each in ascending order of their octets.  So it is the same for the same edges in
another order or repeated.  A package is what the trimmed import begins with, up to a separator or
to its end. -/
theorem externalDependencies_exact (m : ProjectModel) :
    m.externalDependencies.Nodup ∧
    (∀ root, root ∈ m.externalDependencies ↔ root ∉ trivialImports ∧
      ∃ e ∈ m.graph.edges, e.target = .external ∧ importRoot? e.label = some root) ∧
    (∃ known others, m.externalDependencies = known ++ others ∧
      (∀ root ∈ known, IsWellKnown root) ∧ (∀ root ∈ others, ¬ IsWellKnown root) ∧
      (known.Pairwise fun a b => Text.encode a < Text.encode b) ∧
      others.Pairwise fun a b => Text.encode a < Text.encode b) ∧
    (∀ m' : ProjectModel, (∀ e, e ∈ m'.graph.edges ↔ e ∈ m.graph.edges) →
      m'.externalDependencies = m.externalDependencies) ∧
    (∀ name root, importRoot? name = some root → StandsIn (Text.trim name.toList) root) := by
  refine ⟨nodup_externalDependencies m, fun root => mem_externalDependencies, ?_,
    fun m' h => externalDependencies_congr h, fun name root h => standsIn_of_importRoot? h⟩
  refine ⟨_, _, externalDependencies_eq m, ?_, ?_, filter_externalRoots_increasing m _,
    filter_externalRoots_increasing m _⟩
  · intro root hroot
    simpa using (List.mem_filter.1 hroot).2
  · intro root hroot
    simpa using (List.mem_filter.1 hroot).2

/-- A project of one file, all of whose imports leave it. -/
def importing (labels : List String) : ProjectModel :=
  assemble "project" [] ⟨["app.py"], labels.map fun label => ⟨"app.py", .external, label⟩⟩ []

/-- Imports of several kinds, in the order of their packages. -/
def mixedImports : List String :=
  ["./db", "@scope/pkg/sub", "Flask.views", "alembic", "os", "requests"]

theorem externalDependencies_exact_importing :
    (importing ["requests", "os", "@scope/pkg/sub", "alembic", "requests", "Flask.views", "./db"]
        ).externalDependencies = ["Flask", "requests", "@scope/pkg", "alembic"] ∧
      StandsIn "@scope/pkg/sub".toList "@scope/pkg" := by
  obtain ⟨-, -, -, hsame, hstands⟩ := externalDependencies_exact (importing mixedImports)
  have hset : (((importing mixedImports).graph.externalEdges.filterMap
      (importRoot? ·.label)).filter (!trivialImports.contains ·)).eraseDups =
        ["@scope/pkg", "Flask", "alembic", "requests"] := by
    decide +kernel
  have hroots : (importing mixedImports).externalRoots =
      ["@scope/pkg", "Flask", "alembic", "requests"] := by
    unfold externalRoots sortedSet
    rw [hset]
    exact List.mergeSort_of_pairwise (by decide +kernel)
  have hroot : importRoot? " @scope/pkg/sub" = some "@scope/pkg" := by decide +kernel
  refine ⟨?_, hstands _ _ hroot⟩
  rw [hsame, externalDependencies_eq, hroots]
  · decide +kernel
  · intro e
    simp only [importing, assemble, mixedImports, List.map_cons, List.map_nil, List.mem_cons,
      List.not_mem_nil]
    grind

end ProjectModel

/-! ## Paths of modules -/

namespace Resolve

/-- The words with which a path of modules starts inside its own crate. -/
def relativeWords : List String := ["crate", "self", "super"]

variable {word : String} {segs : List String}

theorem mem_spell {c : Char} (h : c ∈ (spell segs).toList) :
    c = ':' ∨ ∃ s ∈ segs, c ∈ s.toList := by
  induction segs with
  | nil => simp [spell, Text.joinWith] at h
  | cons s segs ih =>
      cases segs with
      | nil =>
          rw [toList_spell_singleton] at h
          exact Or.inr ⟨s, List.mem_cons_self, h⟩
      | cons t segs =>
          rw [toList_spell_cons_cons, List.mem_append, List.mem_cons, List.mem_cons] at h
          rcases h with h | h | h | h
          · exact Or.inr ⟨s, List.mem_cons_self, h⟩
          · exact Or.inl h
          · exact Or.inl h
          · refine (ih h).imp_right ?_
            rintro ⟨s', hs', hc⟩
            exact ⟨s', List.mem_cons_of_mem _ hs', hc⟩

/-- A path of modules is its first word and what stands behind it. -/
theorem trim_spell (hword : Text.Unpadded word.toList) (segs : List String) :
    ∃ rest, Text.trim (spell (word :: segs)).toList = word.toList ++ rest ∧
      (rest = [] ∨ "::".toList <+: rest) := by
  cases segs with
  | nil =>
      refine ⟨[], ?_, Or.inl rfl⟩
      rw [toList_spell_singleton, hword.trim_eq, List.append_nil]
  | cons t segs =>
      have hcolons : Text.Unpadded (word.toList ++ [':', ':']) :=
        ⟨hword.start.append (by decide), hword.stop.append (by decide)⟩
      have hname : (spell (word :: t :: segs)).toList =
          word.toList ++ [':', ':'] ++ (spell (t :: segs)).toList := by
        rw [toList_spell_cons_cons, List.append_assoc]
        rfl
      refine ⟨[':', ':'] ++ Text.trimEnd (spell (t :: segs)).toList, ?_,
        Or.inr (List.prefix_append _ _)⟩
      rw [hname, hcolons.trim_append_eq (by simp), List.append_assoc]

theorem isWord_of_mem_relativeWords (h : word ∈ relativeWords) :
    Text.Unpadded word.toList ∧ IsWord word.toList := by
  simp only [relativeWords, List.mem_cons, List.not_mem_nil, or_false] at h
  rcases h with rfl | rfl | rfl <;>
    exact ⟨⟨by decide, by decide⟩, by decide, by decide, by simp⟩

/-- A path of modules inside its own crate belongs to a package all the same: to the one that is
named by its first word. -/
theorem exists_importRoot?_spell (hword : word ∈ relativeWords) (segs : List String) :
    ∃ root, importRoot? (spell (word :: segs)) = some root ∧
      ((∀ s ∈ segs, '/' ∉ s.toList) → root = word) := by
  obtain ⟨hunpadded, hisWord⟩ := isWord_of_mem_relativeWords hword
  obtain ⟨rest, htrim, hrest⟩ := trim_spell hunpadded segs
  by_cases hslash : '/' ∈ rest
  · have hroot := hisWord.importRoot?_of_trim htrim
    rw [if_pos hslash] at hroot
    refine ⟨_, hroot, fun hsegs => ?_⟩
    -- a slash behind the first word stands in one of the segments
    have htext : '/' ∈ Text.trim (spell (word :: segs)).toList := by
      rw [htrim]
      exact List.mem_append_right _ hslash
    rcases mem_spell (Text.mem_of_mem_trim htext) with hcolon | ⟨s, hs, hmem⟩
    · cases hcolon
    · rcases List.mem_cons.1 hs with rfl | hs
      · exact absurd rfl (hisWord.unmarked _ hmem).2.2.2
      · exact absurd hmem (hsegs s hs)
  · refine ⟨word, ?_, fun _ => rfl⟩
    rw [hisWord.importRoot?_eq hrest htrim hslash, String.ofList_toList]

end Resolve

/-! ## The packages of a project -/

open Resolve

variable {goMod : Option String} {files : List SourceFile}

/-- The files that the imports of some files are resolved in. -/
def projectOf (goMod : Option String) (files : List SourceFile) : ProjectFiles :=
  ⟨files.map (·.path), goMod.bind goModule?⟩

/-- The imports that leave a project are those that resolve to no file. -/
theorem Graph.exists_external_ofFiles (p : String → Prop) :
    (∃ e ∈ (Graph.ofFiles goMod files).edges, e.target = .external ∧ p e.label) ↔
      ∃ f ∈ files, ∃ name ∈ f.imports,
        resolveImport f.language name f.path (projectOf goMod files) = none ∧ p name := by
  have hedges : (Graph.ofFiles goMod files).edges =
      files.flatMap (Graph.edgesOf (projectOf goMod files)) := rfl
  rw [hedges]
  constructor
  · rintro ⟨e, he, hexternal, hp⟩
    obtain ⟨f, hf, hmem⟩ := List.mem_flatMap.1 he
    obtain ⟨-, hlabel, htarget⟩ := Graph.mem_edgesOf hmem
    rw [hexternal] at htarget
    exact ⟨f, hf, e.label, hlabel, htarget.symm, hp⟩
  · rintro ⟨f, hf, name, hname, hnone, hp⟩
    refine ⟨⟨f.path, .external, name⟩, List.mem_flatMap.2 ⟨f, hf, ?_⟩, rfl, hp⟩
    refine List.mem_map.2 ⟨name, hname, ?_⟩
    rw [hnone]

theorem ProjectModel.mem_externalDependencies_of_files {path root : String}
    {skipped : List SkippedFile} :
    root ∈ (ProjectModel.assemble path files (Graph.ofFiles goMod files)
        skipped).externalDependencies ↔
      root ∉ trivialImports ∧ ∃ f ∈ files, ∃ name ∈ f.imports,
        resolveImport f.language name f.path (projectOf goMod files) = none ∧
          importRoot? name = some root := by
  rw [ProjectModel.mem_externalDependencies]
  exact and_congr_right' (Graph.exists_external_ofFiles (importRoot? · = some root))

/-- A path of modules leads out of a project that has none of the files which it may stand for. -/
theorem resolveImport_rust_eq_none {name importer : String} {project : ProjectFiles} :
    resolveImport .rust name importer project = none ↔
      ∀ candidate ∈ crateCandidates name importer, candidate ∉ project.paths := by
  rw [resolveImport_rust, ProjectFiles.firstExisting, List.find?_eq_none]
  simp [ProjectFiles.contains]

/-- **Relative imports and packages.**  An import that begins with a dot or a slash belongs to no
package, and nothing that begins so is listed for any project.  But an import that begins with
`crate`, `self` or `super` belongs to a package: unless it holds a slash, to one of this very name.
Such a name is listed exactly if an import of this package resolves to no file, and for a path of
modules this only takes a project that lacks all the files which it may stand for. -/
theorem externalDependencies_relative (path : String) (goMod : Option String)
    (files : List SourceFile) (skipped : List SkippedFile) :
    let m := ProjectModel.assemble path files (Graph.ofFiles goMod files) skipped
    (∀ name c, name.toList.head? = some c → c = '.' ∨ c = '/' → importRoot? name = none) ∧
    (∀ root ∈ m.externalDependencies,
      root.toList.head? ≠ some '.' ∧ root.toList.head? ≠ some '/') ∧
    ∀ word ∈ relativeWords,
      (∀ segs, ∃ root, importRoot? (spell (word :: segs)) = some root ∧
        ((∀ s ∈ segs, '/' ∉ s.toList) → root = word)) ∧
      (word ∈ m.externalDependencies ↔ ∃ f ∈ files, ∃ name ∈ f.imports,
        resolveImport f.language name f.path (projectOf goMod files) = none ∧
          importRoot? name = some word) ∧
      ∀ f ∈ files, f.language = .rust → ∀ segs, (∀ s ∈ segs, '/' ∉ s.toList) →
        spell (word :: segs) ∈ f.imports →
        (∀ candidate ∈ crateCandidates (spell (word :: segs)) f.path,
          candidate ∉ files.map (·.path)) →
        word ∈ m.externalDependencies := by
  intro m
  refine ⟨fun name c hname hc => importRoot?_of_relative hname hc, ?_, ?_⟩
  · intro root hroot
    obtain ⟨-, e, -, -, hlabel⟩ := ProjectModel.mem_externalDependencies.1 hroot
    exact head?_of_importRoot? hlabel
  · intro word hword
    have hlisted : word ∉ trivialImports := by
      revert word
      decide
    have hiff : word ∈ m.externalDependencies ↔ ∃ f ∈ files, ∃ name ∈ f.imports,
        resolveImport f.language name f.path (projectOf goMod files) = none ∧
          importRoot? name = some word := by
      rw [ProjectModel.mem_externalDependencies_of_files]
      exact and_iff_right hlisted
    refine ⟨fun segs => exists_importRoot?_spell hword segs, hiff, ?_⟩
    intro f hf hrust segs hsegs hname hmissing
    obtain ⟨root, hroot, heq⟩ := exists_importRoot?_spell hword segs
    obtain rfl := heq hsegs
    refine hiff.2 ⟨f, hf, _, hname, ?_, hroot⟩
    rw [hrust]
    exact resolveImport_rust_eq_none.2 hmissing

/-- A crate with a test whose own module is missing. -/
def testedCrate : List SourceFile :=
  [SourceFile.analyze "src/lib.rs" "pub fn run() {}\n",
   SourceFile.analyze "tests/api.rs" "use crate::common::setup;\n"]

theorem externalDependencies_relative_testedCrate :
    importRoot? "../common" = none ∧
      spell ["crate", "common", "setup"] ∈ (SourceFile.analyze "tests/api.rs"
        "use crate::common::setup;\n").imports ∧
      (∀ candidate ∈ crateCandidates (spell ["crate", "common", "setup"]) "tests/api.rs",
        candidate ∉ testedCrate.map (·.path)) ∧
      "crate" ∈ (ProjectModel.assemble "." testedCrate (Graph.ofFiles none testedCrate)
        []).externalDependencies := by
  have himport : spell ["crate", "common", "setup"] ∈ (SourceFile.analyze "tests/api.rs"
      "use crate::common::setup;\n").imports := by decide +kernel
  have hmissing : ∀ candidate ∈ crateCandidates (spell ["crate", "common", "setup"])
      "tests/api.rs", candidate ∉ testedCrate.map (·.path) := by decide +kernel
  obtain ⟨hdot, -, hwords⟩ := externalDependencies_relative "." none testedCrate []
  obtain ⟨-, -, hcrate⟩ := hwords "crate" (by decide)
  refine ⟨hdot "../common" '.' rfl (Or.inl rfl), himport, hmissing, ?_⟩
  exact hcrate _ (List.mem_cons_of_mem _ List.mem_cons_self) rfl ["common", "setup"] (by decide)
    himport hmissing

/-- Not every relative import is without a package, and the crate itself is listed among the
packages that it depends on. -/
theorem externalDependencies_own :
    importRoot? "crate::common::setup" = some "crate" ∧ importRoot? "self::parse" = some "self" ∧
      importRoot? "super::util" = some "super" ∧
      "crate" ∈ (ProjectModel.assemble "." testedCrate (Graph.ofFiles none testedCrate)
        []).externalDependencies := by
  refine ⟨by decide +kernel, by decide +kernel, by decide +kernel, ?_⟩
  rw [ProjectModel.mem_externalDependencies_of_files]
  refine ⟨by decide, _, List.mem_cons_of_mem _ List.mem_cons_self, "crate::common::setup", ?_, ?_,
    ?_⟩
  · decide +kernel
  · decide +kernel
  · decide +kernel

end SourceAtlas
