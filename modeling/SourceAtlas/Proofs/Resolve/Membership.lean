import SourceAtlas.Model.Project

/-!
# Import resolution stays inside the project

The answer to an import is a file of the project or nothing.  Candidate paths are put together by
ten different conventions, but each convention ends in one of a few questions to the project, and
those questions only ever answer with one of its paths.

* `ProjectFiles.Within` — an answer that is a path of the project, with its closure under the
  combinators out of which the conventions are made;
* `ImportFamily.resolve_within` — every convention answers within the project;
* `ofFiles_edges_exact` — the graph of imports has one edge for every import of every file, in
  order, and no edge leads to a path that is no node.
-/

namespace SourceAtlas
namespace ProjectFiles

variable {files : ProjectFiles}

/-- An answer that, if there is one, is a file of the project. -/
def Within (files : ProjectFiles) (answer : Option String) : Prop :=
  ∀ path, answer = some path → path ∈ files.paths

/-! ## Closure of `Within` -/

theorem within_none : files.Within none := by
  intro path h
  cases h

theorem Within.or {a b : Option String} (ha : files.Within a) (hb : files.Within b) :
    files.Within (a.or b) := by
  intro path h
  rcases Option.or_eq_some_iff.1 h with h | ⟨-, h⟩
  · exact ha path h
  · exact hb path h

theorem within_findSome? {α : Type} {xs : List α} {ask : α → Option String}
    (h : ∀ x, files.Within (ask x)) : files.Within (xs.findSome? ask) := by
  intro path hpath
  obtain ⟨x, -, hx⟩ := List.exists_of_findSome?_eq_some hpath
  exact h x path hx

theorem within_bind {α : Type} {a : Option α} {ask : α → Option String}
    (h : ∀ x, files.Within (ask x)) : files.Within (a.bind ask) := by
  intro path hpath
  obtain ⟨x, -, hx⟩ := Option.bind_eq_some_iff.1 hpath
  exact h x path hx

theorem within_ite {p : Prop} [Decidable p] {a b : Option String} (ha : files.Within a)
    (hb : files.Within b) : files.Within (if p then a else b) := by
  split
  · exact ha
  · exact hb

/-! ## The questions to a project -/

theorem firstExisting_within (candidates : List String) :
    files.Within (files.firstExisting candidates) := by
  intro path h
  have hc : files.contains path = true := List.find?_some h
  simpa [ProjectFiles.contains] using hc

theorem firstEndingIn_within (tail : String) : files.Within (files.firstEndingIn tail) :=
  fun _ h => List.mem_of_find?_eq_some h

theorem firstInDirEndingIn_within (tail : String) (extensions : List String) :
    files.Within (files.firstInDirEndingIn tail extensions) :=
  fun _ h => List.mem_of_find?_eq_some h

theorem onlyEndingIn_within (tail : String) : files.Within (files.onlyEndingIn tail) := by
  intro path h
  rw [onlyEndingIn] at h
  split at h
  · rename_i only hfilter
    cases h
    have hmem : path ∈ files.paths.filter (endsInSegments · tail) := by
      rw [hfilter]
      exact List.mem_singleton_self path
    exact (List.mem_filter.1 hmem).1
  · cases h

theorem firstIn_within (dir : String) (extensions : List String) (disfavoured : String) :
    files.Within (files.firstIn dir extensions disfavoured) := by
  have hinside : ∀ path ∈ files.paths.filter (liesIn dir extensions), path ∈ files.paths :=
    fun _ hmem => (List.mem_filter.1 hmem).1
  refine Within.or ?_ ?_
  · exact fun path h => hinside path (List.mem_of_find?_eq_some h)
  · exact fun path h => hinside path (List.mem_of_head? h)

end ProjectFiles

/-! ## The conventions -/

namespace Resolve

open ProjectFiles

variable {files : ProjectFiles}

theorem native_within (name importer : String) : files.Within (native name importer files) :=
  (firstExisting_within _).or (onlyEndingIn_within _)

theorem jvm_within (name : String) : files.Within (jvm name files) := by
  rw [jvm]
  split
  · exact firstInDirEndingIn_within _ _
  · refine Within.or (within_findSome? firstEndingIn_within) ?_
    exact within_ite (firstInDirEndingIn_within _ _) within_none

theorem cSharp_within (name : String) : files.Within (cSharp name files) := by
  refine within_findSome? fun candidate => ?_
  exact (firstEndingIn_within _).or (firstInDirEndingIn_within _ _)

theorem php_within (name importer : String) : files.Within (php name importer files) := by
  refine within_ite (firstExisting_within _) ?_
  exact within_findSome? fun candidate => firstEndingIn_within _

theorem swift_within (name : String) : files.Within (swift name files) :=
  firstInDirEndingIn_within _ _

theorem go_within (name : String) : files.Within (go name files) := by
  have hpackage : ∀ dir, files.Within (goPackageFile files dir) :=
    fun dir => firstIn_within dir _ _
  rw [go]
  split
  · exact within_bind hpackage
  · exact within_findSome? hpackage

end Resolve

open ProjectFiles in
/-- Every convention answers within the project. -/
theorem ImportFamily.resolve_within (family : ImportFamily) (name importer : String)
    (files : ProjectFiles) : files.Within (family.resolve name importer files) := by
  cases family with
  | python => exact firstExisting_within _
  | script => exact firstExisting_within _
  | native => exact Resolve.native_within name importer
  | jvm => exact Resolve.jvm_within name
  | cSharp => exact Resolve.cSharp_within name
  | go => exact Resolve.go_within name
  | rust => exact firstExisting_within _
  | ruby => exact firstExisting_within _
  | php => exact Resolve.php_within name importer
  | swift => exact Resolve.swift_within name

/-- Whatever an import resolves to is a file of the project. -/
theorem resolveImport_within (l : Language) (name importer : String) (files : ProjectFiles) :
    files.Within (resolveImport l name importer files) :=
  ProjectFiles.within_bind fun family => family.resolve_within name importer files

/-- A language that belongs to no family has no imports inside a project. -/
theorem resolveImport_eq_none {l : Language} (h : ∀ family : ImportFamily, l ∉ family.languages)
    (name importer : String) (files : ProjectFiles) :
    resolveImport l name importer files = none := by
  have hfamily : ImportFamily.of? l = none := by
    rw [ImportFamily.of?, List.find?_eq_none]
    intro family _ hmem
    exact h family (by simpa using hmem)
  rw [resolveImport, hfamily, Option.bind_none]

/-! ## The graph of imports -/

namespace Graph

theorem edgesOf_labels (project : ProjectFiles) (f : SourceFile) :
    (edgesOf project f).map (fun e => (e.source, e.label)) =
      f.imports.map fun name => (f.path, name) := by
  rw [edgesOf, List.map_map]
  rfl

/-- An edge of a file leads where the import that it stands for resolves to. -/
theorem mem_edgesOf {project : ProjectFiles} {f : SourceFile} {e : Edge}
    (h : e ∈ edgesOf project f) :
    e.source = f.path ∧ e.label ∈ f.imports ∧
      e.target.path? = resolveImport f.language e.label f.path project := by
  obtain ⟨name, hname, rfl⟩ := List.mem_map.1 h
  refine ⟨rfl, hname, ?_⟩
  cases hr : resolveImport f.language name f.path project <;> rfl

end Graph

/-- A target with a path leads to it, and one without leaves the project. -/
theorem Target.eq_of_path? (t : Target) :
    t = (match t.path? with
      | some path => .internal path
      | none => .external) := by
  cases t <;> rfl

/-- **The graph of imports is exact.**  Its nodes are the files in order; it has one edge for each
file and each of its imports, in order, with the importing file and the import as written; every
edge leads where its import resolves to, and so out of the project or to a node.  Behind this stands
that an import of any language and any spelling resolves to a file of the project or to nothing, and
always to nothing when the language has no conventions. -/
theorem ofFiles_edges_exact :
    (∀ (goMod : Option String) (files : List SourceFile),
      let project : ProjectFiles := ⟨files.map (·.path), goMod.bind Resolve.goModule?⟩
      let g := Graph.ofFiles goMod files
      g.nodes = files.map (·.path) ∧
      g.edges.map (fun e => (e.source, e.label)) =
        files.flatMap (fun f => f.imports.map fun name => (f.path, name)) ∧
      (∀ e ∈ g.edges, ∃ f ∈ files, e.source = f.path ∧ e.label ∈ f.imports ∧
        e.target.path? = resolveImport f.language e.label f.path project) ∧
      ∀ e ∈ g.edges, e.target = .external ∨ ∃ path ∈ g.nodes, e.target = .internal path) ∧
    (∀ (l : Language) (name importer : String) (files : ProjectFiles) (path : String),
      resolveImport l name importer files = some path → path ∈ files.paths) ∧
    (∀ (l : Language) (name importer : String) (files : ProjectFiles),
      (∀ family : ImportFamily, l ∉ family.languages) →
        resolveImport l name importer files = none) := by
  refine ⟨?_, ?_, ?_⟩
  · intro goMod files project g
    have htargets : ∀ e ∈ g.edges, ∃ f ∈ files, e.source = f.path ∧ e.label ∈ f.imports ∧
        e.target.path? = resolveImport f.language e.label f.path project := by
      intro e he
      obtain ⟨f, hf, hmem⟩ := List.mem_flatMap.1 he
      exact ⟨f, hf, Graph.mem_edgesOf hmem⟩
    refine ⟨rfl, ?_, htargets, ?_⟩
    · have hedges : g.edges = files.flatMap (Graph.edgesOf project) := rfl
      rw [hedges, List.map_flatMap]
      simp only [Graph.edgesOf_labels]
    · intro e he
      obtain ⟨f, -, -, -, htarget⟩ := htargets e he
      rw [e.target.eq_of_path?]
      cases hpath : e.target.path? with
      | none => exact Or.inl rfl
      | some path =>
          have hmem : path ∈ project.paths :=
            resolveImport_within f.language e.label f.path project path (by rw [← htarget, hpath])
          exact Or.inr ⟨path, hmem, rfl⟩
  · intro l name importer files path h
    exact resolveImport_within l name importer files path h
  · intro l name importer files h
    exact resolveImport_eq_none h name importer files

/-- A package import found next to the importing file, and a language without conventions. -/
theorem ofFiles_edges_exact_package :
    resolveImport .python "db" "app/main.py" ⟨["app/main.py", "app/db/__init__.py"], none⟩ =
        some "app/db/__init__.py" ∧
      "app/db/__init__.py" ∈ ["app/main.py", "app/db/__init__.py"] ∧
      resolveImport .dart "db" "app/main.dart" ⟨["app/db.dart"], none⟩ = none := by
  have hfound : resolveImport .python "db" "app/main.py"
      ⟨["app/main.py", "app/db/__init__.py"], none⟩ = some "app/db/__init__.py" := by
    decide +kernel
  refine ⟨hfound, ofFiles_edges_exact.2.1 _ _ _ _ _ hfound, ?_⟩
  refine ofFiles_edges_exact.2.2 _ _ _ _ ?_
  intro family
  cases family <;> decide

end SourceAtlas
