import SourceAtlas.Proofs.Resolve.Membership
import SourceAtlas.Proofs.Resolve.Namespace

/-!
# Imports in a project that changes

A project may gain files, and the same files may be listed in another order.  What becomes of its
imports is decided by the questions that resolution asks.

* `ProjectFiles.ByFile` — questions that a project answers exactly if one of its files alone would
  do.  All questions are such but one: a header of C or C++ may be found because *only one* file
  ends in its name.  So an import that stays inside the project stays inside when files are added
  (`resolveImport_grows`), and the headers that get lost are known exactly
  (`Resolve.native_eq_none_iff`).
* `ProjectFiles.Unordered` — questions whose answer the order of the files does not touch: whether
  a path is a file, and which is the only file with an end.  The languages that look at candidate
  paths ask nothing else (`resolveImport_perm`).
-/

namespace SourceAtlas
namespace ProjectFiles

variable {files files' : ProjectFiles} {α : Type}

/-! ## Questions that one file answers -/

/-- The project with one file left. -/
def only (files : ProjectFiles) (path : String) : ProjectFiles := ⟨[path], files.goModule⟩

/-- A question that has an answer exactly if it has one in a project of one of the files. -/
def ByFile (ask : ProjectFiles → Option String) : Prop :=
  ∀ files, (ask files).isSome = true ↔ ∃ path ∈ files.paths, (ask (files.only path)).isSome = true

/-- `files'` has all the files of `files`, and the same module path. -/
structure Extends (files' files : ProjectFiles) : Prop where
  paths : files.paths ⊆ files'.paths
  goModule : files'.goModule = files.goModule

theorem ByFile.isSome_of_extends {ask : ProjectFiles → Option String} (hask : ByFile ask)
    (h : files'.Extends files) (hsome : (ask files).isSome = true) :
    (ask files').isSome = true := by
  obtain ⟨path, hpath, hone⟩ := (hask files).1 hsome
  refine (hask files').2 ⟨path, h.paths hpath, ?_⟩
  rwa [only, h.goModule]

/-! ### Closure of `ByFile` -/

theorem byFile_none : ByFile fun _ => none := by
  intro files
  simp

theorem ByFile.or {ask ask' : ProjectFiles → Option String} (h : ByFile ask) (h' : ByFile ask') :
    ByFile fun files => (ask files).or (ask' files) := by
  intro files
  simp only [Option.isSome_or, Bool.or_eq_true, h files, h' files]
  constructor
  · rintro (⟨path, hpath, hone⟩ | ⟨path, hpath, hone⟩)
    · exact ⟨path, hpath, Or.inl hone⟩
    · exact ⟨path, hpath, Or.inr hone⟩
  · rintro ⟨path, hpath, hone | hone⟩
    · exact Or.inl ⟨path, hpath, hone⟩
    · exact Or.inr ⟨path, hpath, hone⟩

theorem byFile_findSome? {ask : α → ProjectFiles → Option String} (h : ∀ x, ByFile (ask x))
    (xs : List α) : ByFile fun files => xs.findSome? (ask · files) := by
  intro files
  simp only [List.findSome?_isSome_iff, fun x => h x files]
  constructor
  · rintro ⟨x, hx, path, hpath, hone⟩
    exact ⟨path, hpath, x, hx, hone⟩
  · rintro ⟨path, hpath, x, hx, hone⟩
    exact ⟨x, hx, path, hpath, hone⟩

theorem byFile_bind {ask : α → ProjectFiles → Option String} (h : ∀ x, ByFile (ask x))
    (a : Option α) : ByFile fun files => a.bind (ask · files) := by
  cases a with
  | none => exact byFile_none
  | some x => exact h x

theorem byFile_ite {p : Prop} [Decidable p] {ask ask' : ProjectFiles → Option String}
    (h : ByFile ask) (h' : ByFile ask') :
    ByFile fun files => if p then ask files else ask' files := by
  split
  · exact h
  · exact h'

/-! ### The questions to a project -/

theorem byFile_find? (fits : String → Bool) : ByFile fun files => files.paths.find? fits := by
  intro files
  simp [List.find?_isSome, only]

theorem byFile_firstExisting (candidates : List String) :
    ByFile (firstExisting · candidates) := by
  intro files
  simp only [firstExisting, List.find?_isSome, contains, List.contains_iff_mem, only,
    List.mem_singleton]
  constructor
  · rintro ⟨path, hcandidate, hpath⟩
    exact ⟨path, hpath, path, hcandidate, rfl⟩
  · rintro ⟨path, hpath, _, hcandidate, rfl⟩
    exact ⟨_, hcandidate, hpath⟩

theorem byFile_firstEndingIn (tail : String) : ByFile (firstEndingIn · tail) := byFile_find? _

theorem byFile_firstInDirEndingIn (tail : String) (extensions : List String) :
    ByFile (firstInDirEndingIn · tail extensions) := byFile_find? _

/-- A file that is not preferred is still an answer. -/
theorem isSome_firstIn_iff (files : ProjectFiles) (dir : String) (extensions : List String)
    (disfavoured : String) :
    (files.firstIn dir extensions disfavoured).isSome = true ↔
      ∃ path ∈ files.paths, liesIn dir extensions path = true := by
  have hinside : files.paths.filter (liesIn dir extensions) ≠ [] ↔
      ∃ path ∈ files.paths, liesIn dir extensions path = true := by
    simp [List.filter_eq_nil_iff]
  rw [firstIn, Option.isSome_or, Bool.or_eq_true, List.isSome_head?, ← hinside]
  refine or_iff_right_of_imp fun hfound => ?_
  obtain ⟨path, hpath, -⟩ := List.find?_isSome.1 hfound
  exact List.ne_nil_of_mem hpath

theorem byFile_firstIn (dir : String) (extensions : List String) (disfavoured : String) :
    ByFile (firstIn · dir extensions disfavoured) := by
  intro files
  simp [isSome_firstIn_iff, only]

/-- The one question that a further file may take the answer from. -/
theorem isSome_onlyEndingIn_iff (files : ProjectFiles) (tail : String) :
    (files.onlyEndingIn tail).isSome = true ↔ files.paths.countP (endsInSegments · tail) = 1 := by
  rw [Option.isSome_iff_exists, List.countP_eq_length_filter, List.length_eq_one_iff]
  simp only [onlyEndingIn_eq_some_iff]

end ProjectFiles

/-! ## More files -/

namespace Resolve

open ProjectFiles

variable {files files' : ProjectFiles}

theorem byFile_jvm (name : String) : ByFile (jvm name) := by
  unfold jvm
  cases Text.beforeTail? ".*".toList name.toList with
  | some package => exact byFile_firstInDirEndingIn _ _
  | none =>
      refine (byFile_findSome? byFile_firstEndingIn _).or ?_
      exact byFile_ite (byFile_firstInDirEndingIn _ _) byFile_none

theorem byFile_cSharp (name : String) : ByFile (cSharp name) := by
  refine byFile_findSome? (fun candidate => ?_) _
  exact (byFile_firstEndingIn _).or (byFile_firstInDirEndingIn _ _)

theorem byFile_php (name importer : String) : ByFile (php name importer) := by
  refine byFile_ite (byFile_firstExisting _) ?_
  exact byFile_findSome? (fun candidate => byFile_firstEndingIn _) _

theorem byFile_swift (name : String) : ByFile (swift name) := byFile_firstInDirEndingIn _ _

/-- Which packages are asked for depends on the module path, but not on the files. -/
theorem byFile_go (name : String) : ByFile (go name) := by
  have hpackage : ∀ dir, ByFile (goPackageFile · dir) := fun dir => byFile_firstIn _ _ _
  intro files
  cases hmodule : files.goModule with
  | some modulePath =>
      simpa [go, hmodule, only] using byFile_bind hpackage (goPackageDir? modulePath name) files
  | none =>
      simpa [go, hmodule, only] using byFile_findSome? hpackage _ files

/-- A header that was found is lost exactly if it lies in none of the directories that are searched
and a second file ends in its name. -/
theorem native_eq_none_iff (h : files'.Extends files) (name importer : String)
    (hfound : (native name importer files).isSome = true) :
    native name importer files' = none ↔
      (∀ candidate ∈ nativeCandidates name importer, candidate ∉ files'.paths) ∧
        2 ≤ files'.paths.countP (endsInSegments · (String.ofList (dropHere name.toList))) := by
  have hdirect : files'.firstExisting (nativeCandidates name importer) = none ↔
      ∀ candidate ∈ nativeCandidates name importer, candidate ∉ files'.paths := by
    simp [firstExisting, ProjectFiles.contains]
  rw [native, Option.or_eq_none_iff, hdirect]
  refine and_congr_right fun hmissing => ?_
  -- Nothing was found directly, so one file of the smaller project ends in the name.
  have hending : (files.onlyEndingIn (String.ofList (dropHere name.toList))).isSome = true := by
    rw [native, Option.isSome_or, Bool.or_eq_true] at hfound
    refine hfound.resolve_left fun hsome => ?_
    have hsome' := (byFile_firstExisting _).isSome_of_extends h hsome
    rw [hdirect.2 hmissing] at hsome'
    cases hsome'
  have hpos : 0 < files'.paths.countP (endsInSegments · (String.ofList (dropHere name.toList))) := by
    rw [isSome_onlyEndingIn_iff] at hending
    obtain ⟨path, hpath, hends⟩ := List.countP_pos_iff.1 (hending ▸ Nat.one_pos)
    exact List.countP_pos_iff.2 ⟨path, h.paths hpath, hends⟩
  rw [← Option.not_isSome_iff_eq_none, isSome_onlyEndingIn_iff]
  omega

end Resolve

namespace ImportFamily

open ProjectFiles Resolve

theorem byFile_resolve {family : ImportFamily} (h : family ≠ native) (name importer : String) :
    ByFile (family.resolve name importer) := by
  cases family with
  | python => exact byFile_firstExisting _
  | script => exact byFile_firstExisting _
  | native => exact absurd rfl h
  | jvm => exact byFile_jvm name
  | cSharp => exact byFile_cSharp name
  | go => exact byFile_go name
  | rust => exact byFile_firstExisting _
  | ruby => exact byFile_firstExisting _
  | php => exact byFile_php name importer
  | swift => exact byFile_swift name

theorem mem_languages_of_of? {l : Language} {family : ImportFamily} (h : of? l = some family) :
    l ∈ family.languages := by
  have hfound : family.languages.contains l = true :=
    List.find?_some (p := fun family : ImportFamily => family.languages.contains l) h
  exact List.contains_iff_mem.1 hfound

theorem of?_eq_native {l : Language} (h : l = .c ∨ l = .cpp) : of? l = some native := by
  rcases h with rfl | rfl <;> decide

end ImportFamily

theorem byFile_resolveImport {l : Language} (hc : l ≠ .c) (hcpp : l ≠ .cpp)
    (name importer : String) : ProjectFiles.ByFile (resolveImport l name importer) := by
  unfold resolveImport
  cases hfamily : ImportFamily.of? l with
  | none => exact ProjectFiles.byFile_none
  | some family =>
      refine ImportFamily.byFile_resolve ?_ name importer
      -- The family with the exception is that of C and C++ alone.
      rintro rfl
      have hl := ImportFamily.mem_languages_of_of? hfamily
      simp [ImportFamily.languages, hc, hcpp] at hl

open ProjectFiles Resolve in
/-- **Adding files takes no import out of the project**, except for some headers of C and C++.  In
any other language an import stays inside a project exactly if it would in a project of a single one
of the files, and so it stays inside when files are added.  So does a header that was found in one
of the directories that are searched.  A header that was found only by the end of its path is lost
exactly if it does not come to lie in one of these directories and a second file ends like it. -/
theorem resolveImport_grows {files files' : ProjectFiles} (h : files'.Extends files)
    (name importer : String) :
    (∀ l : Language, l ≠ .c → l ≠ .cpp →
      ((resolveImport l name importer files).isSome = true ↔
        ∃ path ∈ files.paths, (resolveImport l name importer (files.only path)).isSome = true) ∧
      ((resolveImport l name importer files).isSome = true →
        (resolveImport l name importer files').isSome = true)) ∧
    (∀ l : Language, l = .c ∨ l = .cpp →
      (∀ path ∈ nativeCandidates name importer, resolveImport l name importer files = some path →
        (resolveImport l name importer files').isSome = true) ∧
      ((resolveImport l name importer files).isSome = true →
        (resolveImport l name importer files' = none ↔
          (∀ candidate ∈ nativeCandidates name importer, candidate ∉ files'.paths) ∧
          2 ≤ files'.paths.countP
            (endsInSegments · (String.ofList (dropHere name.toList)))))) := by
  constructor
  · intro l hc hcpp
    have hask := byFile_resolveImport hc hcpp name importer
    exact ⟨hask files, hask.isSome_of_extends h⟩
  · intro l hl
    have hlost := native_eq_none_iff h name importer
    simp only [resolveImport_of_family (ImportFamily.of?_eq_native hl), ImportFamily.resolve]
    refine ⟨fun path hcandidate hfound => ?_, hlost⟩
    have hpath : path ∈ files.paths := native_within name importer path hfound
    rw [← Option.ne_none_iff_isSome]
    intro hnone
    obtain ⟨hmissing, -⟩ := (hlost (by rw [hfound]; rfl)).1 hnone
    exact hmissing path hcandidate (h.paths hpath)

/-- A project before it takes in another library. -/
def beforeVendoring : ProjectFiles where
  paths := ["include/io.h", "src/com/shop/Cart.kt", "third/list.h"]
  goModule := none

/-- The project with a library that holds files of the same names. -/
def afterVendoring : ProjectFiles where
  paths :=
    ["include/io.h", "lib/com/shop/Cart.kt", "lib/io.h", "lib/list.h", "src/com/shop/Cart.kt",
     "third/list.h"]
  goModule := none

/-- A type that is now found elsewhere, a header in a directory that is searched, and a header that
is lost because two files end in its name. -/
theorem resolveImport_grows_vendoring :
    afterVendoring.Extends beforeVendoring ∧
    (resolveImport .kotlin "com.shop.Cart" "Main.kt" beforeVendoring =
        some "src/com/shop/Cart.kt" ∧
      (resolveImport .kotlin "com.shop.Cart" "Main.kt" afterVendoring).isSome = true) ∧
    (resolveImport .c "io.h" "main.c" beforeVendoring = some "include/io.h" ∧
      (resolveImport .c "io.h" "main.c" afterVendoring).isSome = true) ∧
    (resolveImport .c "list.h" "main.c" beforeVendoring = some "third/list.h" ∧
      resolveImport .c "list.h" "main.c" afterVendoring = none) := by
  have hextends : afterVendoring.Extends beforeVendoring := ⟨by decide, rfl⟩
  have htype : resolveImport .kotlin "com.shop.Cart" "Main.kt" beforeVendoring =
      some "src/com/shop/Cart.kt" := by decide +kernel
  have hdirect : resolveImport .c "io.h" "main.c" beforeVendoring = some "include/io.h" := by
    decide +kernel
  have hending : resolveImport .c "list.h" "main.c" beforeVendoring = some "third/list.h" := by
    decide +kernel
  refine ⟨hextends, ⟨htype, ?_⟩, ⟨hdirect, ?_⟩, hending, ?_⟩
  · exact ((resolveImport_grows hextends _ _).1 .kotlin nofun nofun).2 (by rw [htype]; rfl)
  · exact ((resolveImport_grows hextends _ _).2 .c (.inl rfl)).1 _ (by decide +kernel) hdirect
  · refine (((resolveImport_grows hextends _ _).2 .c (.inl rfl)).2 (by rw [hending]; rfl)).2 ?_
    exact ⟨by decide +kernel, by decide +kernel⟩

/-! ## Another order -/

namespace ProjectFiles

/-- A question whose answer the order of the files does not touch. -/
def Unordered (ask : ProjectFiles → Option String) : Prop :=
  ∀ files files', files.paths.Perm files'.paths → ask files = ask files'

/-- Whether candidates are files does not even depend on how often they are listed. -/
theorem firstExisting_congr {files files' : ProjectFiles}
    (h : ∀ path, path ∈ files.paths ↔ path ∈ files'.paths) (candidates : List String) :
    files.firstExisting candidates = files'.firstExisting candidates := by
  have hcontains : files.contains = files'.contains := by
    funext path
    rw [Bool.eq_iff_iff, contains, contains, List.contains_iff_mem, List.contains_iff_mem, h]
  rw [firstExisting, firstExisting, hcontains]

theorem unordered_firstExisting (candidates : List String) :
    Unordered (firstExisting · candidates) := by
  intro files files' h
  exact firstExisting_congr (fun path => h.mem_iff) candidates

theorem unordered_onlyEndingIn (tail : String) : Unordered (onlyEndingIn · tail) := by
  intro files files' h
  have hfilter := h.filter (endsInSegments · tail)
  refine Option.ext fun path => ?_
  rw [onlyEndingIn_eq_some_iff, onlyEndingIn_eq_some_iff]
  -- A list of one file has no other order.
  constructor
  · intro honly
    rw [honly] at hfilter
    exact List.perm_singleton.1 hfilter.symm
  · intro honly
    rw [honly] at hfilter
    exact List.perm_singleton.1 hfilter

theorem Unordered.or {ask ask' : ProjectFiles → Option String} (h : Unordered ask)
    (h' : Unordered ask') : Unordered fun files => (ask files).or (ask' files) := by
  intro files files' hperm
  simp only [h files files' hperm, h' files files' hperm]

end ProjectFiles

/-- The languages, other than C and C++, that look for imports at candidate paths. -/
def LooksAtPaths (l : Language) (name : String) : Prop :=
  l ∈ [.python, .javaScript, .typeScript, .rust, .ruby] ∨
    l = .php ∧ (Text.endsWith name ".php" = true ∨ '/' ∈ name.toList)

open Resolve in
/-- The candidates depend on the import and the importing file, but not on the project. -/
theorem LooksAtPaths.exists_candidates {l : Language} {name : String} (h : LooksAtPaths l name)
    (importer : String) : ∃ candidates, ∀ files : ProjectFiles,
      resolveImport l name importer files = files.firstExisting candidates := by
  rcases h with hl | ⟨rfl, hname⟩
  · simp only [List.mem_cons, List.not_mem_nil, or_false] at hl
    rcases hl with rfl | rfl | rfl | rfl | rfl
    · have hfamily : ImportFamily.of? .python = some .python := by decide
      exact ⟨pythonCandidates name importer, resolveImport_of_family hfamily name importer⟩
    · have hfamily : ImportFamily.of? .javaScript = some .script := by decide
      exact ⟨scriptCandidates name importer, resolveImport_of_family hfamily name importer⟩
    · have hfamily : ImportFamily.of? .typeScript = some .script := by decide
      exact ⟨scriptCandidates name importer, resolveImport_of_family hfamily name importer⟩
    · have hfamily : ImportFamily.of? .rust = some .rust := by decide
      exact ⟨crateCandidates name importer, resolveImport_of_family hfamily name importer⟩
    · have hfamily : ImportFamily.of? .ruby = some .ruby := by decide
      exact ⟨rubyCandidates name importer, resolveImport_of_family hfamily name importer⟩
  · refine ⟨phpIncludeCandidates name importer, fun files => ?_⟩
    rw [← Text.contains_slash, ← Bool.or_eq_true] at hname
    rw [resolveImport_of_family (show ImportFamily.of? .php = some .php by decide),
      ImportFamily.resolve, php, if_pos hname]

open ProjectFiles in
theorem LooksAtPaths.unordered {l : Language} {name : String} (h : LooksAtPaths l name)
    (importer : String) : Unordered (resolveImport l name importer) := by
  obtain ⟨candidates, hcandidates⟩ := h.exists_candidates importer
  rw [funext hcandidates]
  exact unordered_firstExisting candidates

open ProjectFiles in
theorem unordered_resolveImport_native {l : Language} (hl : l = .c ∨ l = .cpp)
    (name importer : String) : Unordered (resolveImport l name importer) := by
  rw [funext (resolveImport_of_family (ImportFamily.of?_eq_native hl) name importer)]
  exact (unordered_firstExisting _).or (unordered_onlyEndingIn _)

/-- **Languages that look at candidate paths do not see the order of the files.**  In Python,
JavaScript, TypeScript, C, C++, Rust and Ruby, and in PHP for imports that name a file, an import has
the same answer however the files of the project are listed.  Outside C and C++ even repetitions do
not count: the answer is the first of a few candidates, fixed by the import and the importing file,
that is listed at all. -/
theorem resolveImport_perm {files files' : ProjectFiles} (h : files.paths.Perm files'.paths)
    (name importer : String) :
    (∀ l ∈ [Language.python, .javaScript, .typeScript, .c, .cpp, .rust, .ruby],
      resolveImport l name importer files = resolveImport l name importer files') ∧
    (Text.endsWith name ".php" = true ∨ '/' ∈ name.toList →
      resolveImport .php name importer files = resolveImport .php name importer files') ∧
    (∀ l, LooksAtPaths l name → ∃ candidates : List String, ∀ project : ProjectFiles,
      resolveImport l name importer project = candidates.find? (· ∈ project.paths)) := by
  refine ⟨fun l hl => ?_, fun hname => ?_, fun l hl => ?_⟩
  · by_cases hnative : l = .c ∨ l = .cpp
    · exact unordered_resolveImport_native hnative name importer files files' h
    · have hpaths : LooksAtPaths l name := by
        refine Or.inl ?_
        simp only [List.mem_cons, List.not_mem_nil, or_false] at hl ⊢
        tauto
      exact hpaths.unordered importer files files' h
  · have hpaths : LooksAtPaths .php name := Or.inr ⟨rfl, hname⟩
    exact hpaths.unordered importer files files' h
  · obtain ⟨candidates, hcandidates⟩ := hl.exists_candidates importer
    refine ⟨candidates, fun project => ?_⟩
    have hlisted : project.contains = fun path => decide (path ∈ project.paths) :=
      funext fun path => List.contains_eq_mem path project.paths
    rw [hcandidates, ProjectFiles.firstExisting, hlisted]

/-- A required file that is listed twice, and a header that is not found because two files end in
its name. -/
theorem resolveImport_perm_twice :
    ["lib/db.rb", "third/list.h", "app/list.h", "lib/db.rb"].Perm
        ["app/list.h", "lib/db.rb", "lib/db.rb", "third/list.h"] ∧
      resolveImport .ruby "db" "main.rb"
          ⟨["app/list.h", "lib/db.rb", "lib/db.rb", "third/list.h"], none⟩ = some "lib/db.rb" ∧
      resolveImport .c "list.h" "main.c"
          ⟨["app/list.h", "lib/db.rb", "lib/db.rb", "third/list.h"], none⟩ = none := by
  have hperm : ["lib/db.rb", "third/list.h", "app/list.h", "lib/db.rb"].Perm
      ["app/list.h", "lib/db.rb", "lib/db.rb", "third/list.h"] := by decide
  have hsame := fun name importer => (@resolveImport_perm ⟨_, none⟩ ⟨_, none⟩ hperm name importer).1
  refine ⟨hperm, ?_, ?_⟩
  · rw [← hsame _ _ .ruby (by decide)]
    decide +kernel
  · rw [← hsame _ _ .c (by decide)]
    decide +kernel

/-- A language that searches the paths for a namespace does see the order. -/
example : resolveImport .java "shop.Cart" "Main.java"
    ⟨["app/shop/Cart.java", "lib/shop/Cart.java"], none⟩ ≠
  resolveImport .java "shop.Cart" "Main.java"
    ⟨["lib/shop/Cart.java", "app/shop/Cart.java"], none⟩ := by decide +kernel

end SourceAtlas
