import Mathlib.Data.List.Infix
import SourceAtlas.Proofs.Resolve.Relative

/-!
# Module paths inside a crate

A module of a crate can be named from the module that imports it (`self`), from one above it
(`super`) or from the root of the crate (`crate`).  What resolves under a relative name resolves to
the same file under the absolute one, since the candidates of the relative name are the first
candidates of the absolute one.

A file stands for a module, and a module may live in several files.  From a file to its module and
back leads to the same file, unless the module has another file that is tried before it.

* `spell`, `readBack` — a path of modules as it is written, and its segments as they are read.
* `probes` — the files of ever shorter module paths; `crateCandidates_eq` says that they are what is
  tried, and `probes_initial` compares them for relative and absolute names.
* `resolveImport_absolute` — relative and absolute names agree.
* `Below` — how a path goes on below the sources of its crate; `Below.eq_join` puts the path
  together again, and `Below.modulePath_eq` says what its module is.
* `resolveImport_self` — a module that names itself is found in its own file.
-/

namespace SourceAtlas

/-! ## Cutting texts -/

namespace Text

variable {c : Char} {s rest : List Char}

theorem splitDoubleColon_ne_nil (s : List Char) : splitDoubleColon s ≠ [] := by
  fun_cases splitDoubleColon s <;> simp

theorem splitDoubleColon_cons (hc : c ≠ ':') (rest : List Char) :
    splitDoubleColon (c :: rest) = (splitDoubleColon rest).modifyHead (c :: ·) := by
  rw [splitDoubleColon]
  · obtain ⟨piece, pieces, hpieces⟩ := List.exists_cons_of_ne_nil (splitDoubleColon_ne_nil rest)
    rw [hpieces]
    rfl
  · exact fun more h => absurd h hc

theorem splitDoubleColon_of_not_mem (h : ':' ∉ s) : splitDoubleColon s = [s] := by
  induction s with
  | nil => rfl
  | cons c s ih =>
      rw [List.mem_cons, not_or] at h
      rw [splitDoubleColon_cons (Ne.symm h.1), ih h.2]
      rfl

theorem splitDoubleColon_append (h : ':' ∉ s) (rest : List Char) :
    splitDoubleColon (s ++ ':' :: ':' :: rest) = s :: splitDoubleColon rest := by
  induction s with
  | nil => rfl
  | cons c s ih =>
      rw [List.mem_cons, not_or] at h
      rw [List.cons_append, splitDoubleColon_cons (Ne.symm h.1), ih h.2]
      rfl

theorem dropDoubleColons_cons (hc : c ≠ ':') (rest : List Char) :
    dropDoubleColons (c :: rest) = c :: rest := by
  rw [dropDoubleColons]
  exact fun more h => hc (List.cons.inj h).1

theorem cutAtLast?_eq_some {mark text before after : List Char}
    (h : cutAtLast? mark text = some (before, after)) : text = before ++ mark ++ after := by
  induction text generalizing before with
  | nil =>
      rw [cutAtLast?] at h
      split at h
      · cases h
        simp_all
      · cases h
  | cons c rest ih =>
      rw [cutAtLast?] at h
      split at h
      · rename_i before' after' hrest
        cases h
        rw [ih hrest]
        rfl
      · obtain ⟨after', hafter, heq⟩ := Option.map_eq_some_iff.1 h
        cases heq
        rw [afterHead?] at hafter
        split at hafter
        · rename_i hmark
          cases hafter
          exact (List.prefix_iff_eq_append.1 (List.isPrefixOf_iff_prefix.1 hmark)).symm
        · cases hafter

end Text

namespace Resolve

/-! ## Written paths of modules -/

/-- A path of modules as it is written. -/
def spell (segs : List String) : String := Text.joinWith "::" segs

/-- The segments of a written path as they are read. -/
def readSegments (name : String) : List String :=
  (Text.splitDoubleColon name.toList).map String.ofList

/-- The segments that are read when `segs` stand behind other segments. -/
def readBack (segs : List String) : List String :=
  if segs = [] then [] else readSegments (spell segs)

theorem toList_spell_singleton (s : String) : (spell [s]).toList = s.toList := by
  simp [spell, Text.joinWith]

theorem toList_spell_cons_cons (s t : String) (segs : List String) :
    (spell (s :: t :: segs)).toList = s.toList ++ ':' :: ':' :: (spell (t :: segs)).toList := by
  have hcolons : "::".toList = [':', ':'] := rfl
  simp only [spell, Text.joinWith, String.toList_ofList, List.map_cons,
    List.intercalate_cons_cons, hcolons, List.append_assoc, List.cons_append, List.nil_append]

theorem readSegments_spell_cons {s : String} (hs : ':' ∉ s.toList) (segs : List String) :
    readSegments (spell (s :: segs)) = s :: readBack segs := by
  cases segs with
  | nil =>
      rw [readSegments, toList_spell_singleton, Text.splitDoubleColon_of_not_mem hs]
      simp [readBack]
  | cons t segs =>
      rw [readSegments, toList_spell_cons_cons, Text.splitDoubleColon_append hs]
      simp [readBack, readSegments]

/-- Segments without colons are read as they are written, whatever stands behind them. -/
theorem readBack_append {segs : List String} (h : ∀ s ∈ segs, ':' ∉ s.toList)
    (more : List String) : readBack (segs ++ more) = segs ++ readBack more := by
  induction segs with
  | nil => rfl
  | cons s segs ih =>
      obtain ⟨hs, hsegs⟩ := List.forall_mem_cons.1 h
      rw [List.cons_append, readBack, if_neg (List.cons_ne_nil _ _), readSegments_spell_cons hs,
        ih hsegs]
      rfl

theorem readBack_eq_self {segs : List String} (h : ∀ s ∈ segs, ':' ∉ s.toList) :
    readBack segs = segs := by
  simpa [readBack] using readBack_append h []

/-- A keyword at the front of a path: it begins with no colon, so none is dropped. -/
theorem dropDoubleColons_spell {s : String} {c : Char} (hs : s.toList.head? = some c)
    (hc : c ≠ ':') (segs : List String) :
    Text.dropDoubleColons (spell (s :: segs)).toList = (spell (s :: segs)).toList := by
  obtain ⟨rest, hrest⟩ := List.head?_eq_some_iff.1 hs
  cases segs with
  | nil => rw [toList_spell_singleton, hrest, Text.dropDoubleColons_cons hc]
  | cons t segs =>
      rw [toList_spell_cons_cons, hrest, List.cons_append, Text.dropDoubleColons_cons hc]

/-! ## Where an import starts from -/

theorem importBase?_self (segs importer : List String) :
    importBase? (spell ("self" :: segs)) importer = some (importer, readBack segs) := by
  have hread : readSegments (spell ("self" :: segs)) = "self" :: readBack segs :=
    readSegments_spell_cons (by decide) segs
  rw [importBase?, dropDoubleColons_spell (c := 's') rfl (by decide), ← readSegments, hread]
  rfl

theorem importBase?_crate (segs importer : List String) :
    importBase? (spell ("crate" :: segs)) importer = some ([], readBack segs) := by
  have hread : readSegments (spell ("crate" :: segs)) = "crate" :: readBack segs :=
    readSegments_spell_cons (by decide) segs
  rw [importBase?, dropDoubleColons_spell (c := 'c') rfl (by decide), ← readSegments, hread]
  rfl

theorem readSegments_super (j : Nat) (segs : List String) :
    readSegments (spell (List.replicate (j + 1) "super" ++ segs)) =
      List.replicate (j + 1) "super" ++ readBack segs := by
  have hcolon : ∀ s ∈ List.replicate (j + 1) "super", ':' ∉ s.toList := by
    intro s hs
    rw [List.eq_of_mem_replicate hs]
    decide
  rw [← readBack_append hcolon, readBack, if_neg (by simp [List.replicate_succ])]

theorem importBase?_super (j : Nat) {segs : List String}
    (h : (readBack segs).head? ≠ some "super") (importer : List String) :
    importBase? (spell (List.replicate (j + 1) "super" ++ segs)) importer =
      some (importer.take (importer.length - (j + 1)), readBack segs) := by
  have hread := readSegments_super j segs
  have hrest : (readBack segs).takeWhile (· = "super") = [] := by
    cases hback : readBack segs with
    | nil => rfl
    | cons s others =>
        have hs : s ≠ "super" := by simpa [hback] using h
        simp [hs]
  rw [List.replicate_succ, List.cons_append] at hread ⊢
  rw [importBase?, dropDoubleColons_spell (c := 's') rfl (by decide), ← readSegments, hread]
  simp [hrest, List.drop_left']

/-! ## The candidates -/

/-- The files of a module path and of those that it begins with, down to a base: the longest
first. -/
def probes (sources : String) (base segs : List String) : List String :=
  (List.range (segs.length + 1)).reverse.flatMap fun k => moduleFiles sources (base ++ segs.take k)

theorem crateCandidates_eq {name importer : String} {base segs : List String}
    (hbase : importBase? name (cratePlace importer).modulePath = some (base, segs))
    (hlength : segs.length ≠ (Text.splitDoubleColon name.toList).length) :
    crateCandidates name importer = probes (cratePlace importer).sources base segs := by
  rw [crateCandidates, hbase, probes, List.range_succ_eq_map, List.reverse_cons,
    List.flatMap_append, ← List.map_reverse, List.flatMap_map]
  simp [hlength]

/-- The candidates of a relative path are the first ones of the absolute path. -/
theorem probes_initial (sources : String) (base segs : List String) :
    probes sources base segs <+: probes sources [] (base ++ segs) := by
  -- the paths that end within `base` are the shortest ones, and so tried last
  have hrange : List.range ((base ++ segs).length + 1) =
      List.range base.length ++ (List.range (segs.length + 1)).map (base.length + ·) := by
    rw [List.length_append, Nat.add_assoc, List.range_add]
  rw [probes, probes, hrange, List.reverse_append, List.flatMap_append, ← List.map_reverse,
    List.flatMap_map]
  simp only [List.nil_append, List.take_length_add_append]
  exact List.prefix_append _ _

end Resolve

open Resolve

variable {files : ProjectFiles} {importer : String}

theorem resolveImport_rust (name importer : String) (files : ProjectFiles) :
    resolveImport .rust name importer files =
      files.firstExisting (crateCandidates name importer) := by
  rw [resolveImport_of_family (show ImportFamily.of? .rust = some .rust by decide)]
  rfl

/-- Two names that start from a module `base` of the crate and from its root, and lead to the same
module: what is found under the first is found under the second. -/
theorem resolveImport_of_importBase? {name name' x : String} {base segs : List String}
    (hname : importBase? name (cratePlace importer).modulePath = some (base, segs))
    (hlength : segs.length ≠ (Text.splitDoubleColon name.toList).length)
    (hname' : importBase? name' (cratePlace importer).modulePath = some ([], base ++ segs))
    (hlength' : (base ++ segs).length ≠ (Text.splitDoubleColon name'.toList).length)
    (h : resolveImport .rust name importer files = some x) :
    resolveImport .rust name' importer files = some x := by
  rw [resolveImport_rust, crateCandidates_eq hname hlength] at h
  rw [resolveImport_rust, crateCandidates_eq hname' hlength']
  exact (probes_initial _ base segs).find?_eq_some h

theorem length_splitDoubleColon (name : String) :
    (Text.splitDoubleColon name.toList).length = (readSegments name).length := by
  rw [readSegments, List.length_map]

/-- **Relative and absolute names agree.**  What is found under `self` or `super` is found under
`crate` with the module of the importer, or one above it, in their place.  The texts `p` behind
them are arbitrary; that they do not begin with another `super` is said of the segments as they are
read, which for texts without colons are the texts themselves (`readBack_eq_self`). -/
theorem resolveImport_absolute (files : ProjectFiles) (importer : String)
    (hcolon : ∀ s ∈ (cratePlace importer).modulePath, ':' ∉ s.toList) (p : List String) :
    (∀ x, resolveImport .rust (spell ("self" :: p)) importer files = some x →
      resolveImport .rust (spell ("crate" :: ((cratePlace importer).modulePath ++ p))) importer
        files = some x) ∧
    ∀ j, 1 ≤ j → (readBack p).head? ≠ some "super" → ∀ x,
      resolveImport .rust (spell (List.replicate j "super" ++ p)) importer files = some x →
      resolveImport .rust (spell ("crate" :: ((cratePlace importer).modulePath.take
        ((cratePlace importer).modulePath.length - j) ++ p))) importer files = some x := by
  -- `crate` is a segment of the name but not of the path, so the name is never a bare one
  have habsolute : ∀ base, (∀ s ∈ base, ':' ∉ s.toList) →
      importBase? (spell ("crate" :: (base ++ p))) (cratePlace importer).modulePath =
          some ([], base ++ readBack p) ∧
        (base ++ readBack p).length ≠
          (Text.splitDoubleColon (spell ("crate" :: (base ++ p))).toList).length := by
    intro base hbase
    refine ⟨by rw [importBase?_crate, readBack_append hbase], ?_⟩
    rw [length_splitDoubleColon, readSegments_spell_cons (by decide), readBack_append hbase]
    simp
  constructor
  · intro x hx
    obtain ⟨hbase, hlength⟩ := habsolute _ hcolon
    refine resolveImport_of_importBase? (importBase?_self p _) ?_ hbase hlength hx
    rw [length_splitDoubleColon, readSegments_spell_cons (by decide)]
    simp
  · intro j hj hsuper x hx
    obtain ⟨j, rfl⟩ : ∃ i, j = i + 1 := ⟨j - 1, by omega⟩
    obtain ⟨hbase, hlength⟩ :=
      habsolute _ fun s hs => hcolon s (List.mem_of_mem_take hs)
    refine resolveImport_of_importBase? (importBase?_super j hsuper _) ?_ hbase hlength hx
    rw [length_splitDoubleColon, readSegments_super]
    simp

/-- A crate in which the same names occur at several levels. -/
def nestedCrate : ProjectFiles where
  paths := ["src/lib.rs", "src/a/b.rs", "src/a/b/c.rs", "src/a/c.rs", "src/c.rs", "src/b.rs"]
  goModule := none

theorem resolveImport_absolute_nestedCrate :
    (∀ s ∈ (cratePlace "src/a/b.rs").modulePath, ':' ∉ s.toList) ∧
      (readBack ["c", "Item"]).head? ≠ some "super" ∧
      resolveImport .rust "self::c::Item" "src/a/b.rs" nestedCrate = some "src/a/b/c.rs" ∧
      resolveImport .rust "crate::a::b::c::Item" "src/a/b.rs" nestedCrate =
        some "src/a/b/c.rs" ∧
      resolveImport .rust "super::c::Item" "src/a/b.rs" nestedCrate = some "src/a/c.rs" ∧
      resolveImport .rust "crate::a::c::Item" "src/a/b.rs" nestedCrate = some "src/a/c.rs" := by
  have hcolon : ∀ s ∈ (cratePlace "src/a/b.rs").modulePath, ':' ∉ s.toList := by decide +kernel
  have hsuper : (readBack ["c", "Item"]).head? ≠ some "super" := by
    rw [readBack_eq_self (by decide)]
    decide
  have hself : resolveImport .rust "self::c::Item" "src/a/b.rs" nestedCrate =
      some "src/a/b/c.rs" := by decide +kernel
  have habove : resolveImport .rust "super::c::Item" "src/a/b.rs" nestedCrate =
      some "src/a/c.rs" := by decide +kernel
  obtain ⟨hself', habove'⟩ :=
    resolveImport_absolute nestedCrate "src/a/b.rs" hcolon ["c", "Item"]
  have hmodule : (cratePlace "src/a/b.rs").modulePath = ["a", "b"] := by decide +kernel
  rw [hmodule] at hself' habove'
  refine ⟨hcolon, hsuper, hself, ?_, habove, ?_⟩
  · exact hself' _ hself
  · exact habove' 1 (Nat.le_refl 1) hsuper _ habove

/-! ## The file of a module -/

/-- A file after another candidate is found where that one is missing. -/
theorem ProjectFiles.firstExisting_pair {path : String} (h : path ∈ files.paths) (other : String) :
    files.firstExisting [other, path] = if other ∈ files.paths then some other else some path := by
  split
  · rename_i hother
    exact firstExisting_cons hother _
  · rename_i hother
    have hmissing : ¬ files.contains other = true := fun hc => hother (List.contains_iff_mem.1 hc)
    rw [firstExisting, List.find?_cons_of_neg hmissing]
    exact firstExisting_cons h []

namespace Resolve

/-- The directory of the sources and the path below it make up the whole path. -/
theorem join_splitSources (path : String) :
    Path.join (splitSources path).1 (splitSources path).2 = path := by
  rw [splitSources]
  split
  · rename_i before after hcut
    split
    · have hne : String.ofList (before ++ "src".toList) ≠ "" := by
        simp [← String.toList_inj]
      have hpath : path.toList = before ++ "src".toList ++ "/".toList ++ after := by
        have hmark : "src/".toList = "src".toList ++ "/".toList := rfl
        rw [Text.cutAtLast?_eq_some hcut, hmark, ← List.append_assoc before]
      rw [Path.join, if_neg hne, ← String.toList_inj, hpath]
      simp only [String.toList_append, String.toList_ofList]
    · rfl
  · rfl

theorem moduleStem_append (stem : String) : moduleStem (stem ++ ".rs") = stem := by
  rw [moduleStem, Text.beforeTail?, String.toList_append]
  simp

/-- A path leads from the sources of its crate through the directories `dirs` to the name `own`. -/
def Below (path : String) (dirs : List String) (own : String) : Prop :=
  Path.segments (splitSources path).2 = dirs ++ [own]

variable {path own stem : String} {dirs : List String}

theorem Below.modulePath_eq (h : Below path dirs (stem ++ ".rs")) :
    (cratePlace path).modulePath =
      if stem = "mod" ∨ dirs = [] ∧ (stem = "lib" ∨ stem = "main") then dirs
      else dirs ++ [stem] := by
  rw [Below] at h
  simp [cratePlace, h, moduleStem_append]

theorem Below.segments_eq (h : Below path dirs own) :
    ∃ above, Path.segments path = above ++ dirs ++ [own] := by
  rw [← join_splitSources path, Path.segments_join, h, ← List.append_assoc]
  exact ⟨_, rfl⟩

theorem exists_below (hending : Text.endsWith path ".rs" = true) :
    ∃ dirs stem, Below path dirs (stem ++ ".rs") := by
  have hne : Path.segments (splitSources path).2 ≠ [] := by
    simp [Path.segments, List.splitOn_ne_nil]
  obtain ⟨dirs, own, hbelow⟩ : ∃ dirs own, Below path dirs own :=
    ⟨_, _, (List.dropLast_concat_getLast hne).symm⟩
  obtain ⟨above, hsegs⟩ := hbelow.segments_eq
  rw [Path.endsWith_iff_of_segments hsegs (by decide)] at hending
  obtain ⟨stem, hstem⟩ := hending
  have hown : String.ofList stem ++ ".rs" = own := by
    rw [← String.toList_inj, ← hstem, String.toList_append, String.toList_ofList]
  exact ⟨dirs, String.ofList stem, hown ▸ hbelow⟩

theorem Below.eq_join (h : Below path dirs own) :
    path = Path.join (splitSources path).1 (Path.ofSegments (dirs ++ [own])) := by
  rw [← h, Path.ofSegments_segments, join_splitSources]

theorem Below.parent_eq (h : Below path dirs own) (hdirs : dirs ≠ []) :
    Path.parent path = Path.join (splitSources path).1 (Path.ofSegments dirs) := by
  have hpath : path = Path.join (splitSources path).1 (Path.ofSegments dirs) ++ "/" ++ own := by
    rw [String.append_assoc, Path.join_append, ← String.append_assoc,
      ← Path.ofSegments_concat hdirs]
    exact h.eq_join
  have hown : Path.segments own = [own] :=
    Path.segments_of_not_mem
      (Path.slash_not_mem_of_mem_segments (h ▸ List.mem_append_right dirs List.mem_cons_self))
  have hsegs := congrArg Path.segments hpath
  rw [Path.segments_append_slash, hown] at hsegs
  rw [Path.parent_of_segments hsegs, Path.ofSegments_segments]

/-- The files directly at the sources. -/
theorem Below.eq_join_iff (h : Below path dirs (stem ++ ".rs"))
    (name : String) (hname : '/' ∉ (name ++ ".rs").toList) :
    path = Path.join (splitSources path).1 (name ++ ".rs") ↔ dirs = [] ∧ stem = name := by
  constructor
  · intro hpath
    have hinner := Path.join_inj ((join_splitSources path).trans hpath)
    rw [Below, hinner, Path.segments_of_not_mem hname] at h
    cases dirs with
    | nil => simpa [eq_comm] using h
    | cons first others => simp at h
  · rintro ⟨rfl, rfl⟩
    have hpath := h.eq_join
    rwa [List.nil_append, Path.ofSegments_singleton] at hpath

theorem moduleFiles_of_ne_nil {modulePath : List String} (h : modulePath ≠ []) (sources : String) :
    moduleFiles sources modulePath =
      [Path.join sources (Path.ofSegments modulePath) ++ ".rs",
        Path.join (Path.join sources (Path.ofSegments modulePath)) "mod.rs"] := by
  cases modulePath with
  | nil => exact absurd rfl h
  | cons first others => rfl

/-- A file that is named for its module is the first one that the module may live in. -/
theorem Below.firstExisting_of_stem (h : Below path dirs (stem ++ ".rs"))
    (hpath : path ∈ files.paths) :
    files.firstExisting (moduleFiles (splitSources path).1 (dirs ++ [stem])) = some path := by
  have hfile : Path.join (splitSources path).1 (Path.ofSegments (dirs ++ [stem])) ++ ".rs" =
      path := by
    rw [Path.join_append, Path.ofSegments_concat_append, ← h.eq_join]
  rw [moduleFiles_of_ne_nil (by simp), hfile]
  exact ProjectFiles.firstExisting_cons hpath _

/-- A file inside the directory of its module comes after the one beside that directory. -/
theorem Below.firstExisting_of_mod (h : Below path dirs "mod.rs") (hdirs : dirs ≠ [])
    (hnames : "" ∉ Path.segments path) (hpath : path ∈ files.paths) :
    files.firstExisting (moduleFiles (splitSources path).1 dirs) =
      if Path.parent path ++ ".rs" ∈ files.paths then some (Path.parent path ++ ".rs")
      else some path := by
  obtain ⟨above, hsegs⟩ := h.segments_eq
  rw [moduleFiles_of_ne_nil hdirs, ← h.parent_eq hdirs, Path.join_parent hsegs hnames]
  exact ProjectFiles.firstExisting_pair hpath _

/-- The file of a library is the first one that the root of a crate may live in. -/
theorem firstExisting_of_lib (h : path = Path.join (splitSources path).1 "lib.rs")
    (hpath : path ∈ files.paths) :
    files.firstExisting (moduleFiles (splitSources path).1 []) = some path := by
  rw [moduleFiles, List.map_cons, ← h]
  exact ProjectFiles.firstExisting_cons hpath _

/-- The file of a program comes after that of a library. -/
theorem firstExisting_of_main (h : path = Path.join (splitSources path).1 "main.rs")
    (hpath : path ∈ files.paths) :
    files.firstExisting (moduleFiles (splitSources path).1 []) =
      if Path.join (splitSources path).1 "lib.rs" ∈ files.paths then
        some (Path.join (splitSources path).1 "lib.rs")
      else some path := by
  rw [moduleFiles, List.map_cons, List.map_singleton, ← h]
  exact ProjectFiles.firstExisting_pair hpath _

end Resolve

/-- The name of a module for itself: only the files of that module are tried. -/
theorem resolveImport_own (importer : String) (files : ProjectFiles) :
    resolveImport .rust "self" importer files = files.firstExisting
      (moduleFiles (cratePlace importer).sources (cratePlace importer).modulePath) := by
  have hbase : importBase? "self" (cratePlace importer).modulePath =
      some ((cratePlace importer).modulePath, []) := importBase?_self [] _
  rw [resolveImport_rust, crateCandidates_eq hbase (by decide)]
  simp [probes]

/-- **The module of a file and the file of a module are inverse.**  A file is found under its
module's own name, with two exceptions: the file inside the directory of a module comes after the
one beside it, and the program of a crate after its library. -/
theorem resolveImport_self (files : ProjectFiles)
    (hnames : ∀ path ∈ files.paths, "" ∉ Path.segments path) {f : String} (hf : f ∈ files.paths)
    (hending : Text.endsWith f ".rs" = true)
    (hroot : f ≠ Path.join (cratePlace f).sources "mod.rs") :
    resolveImport .rust "self" f files =
      if Path.lastSegment f = "mod.rs" ∧ Path.parent f ++ ".rs" ∈ files.paths then
        some (Path.parent f ++ ".rs")
      else if f = Path.join (cratePlace f).sources "main.rs" ∧
          Path.join (cratePlace f).sources "lib.rs" ∈ files.paths then
        some (Path.join (cratePlace f).sources "lib.rs")
      else some f := by
  obtain ⟨dirs, stem, hbelow⟩ := exists_below hending
  obtain ⟨above, hsegs⟩ := hbelow.segments_eq
  have hsources : (cratePlace f).sources = (splitSources f).1 := rfl
  have hmod : Path.lastSegment f = "mod.rs" ↔ stem = "mod" := by
    rw [Path.lastSegment_of_segments hsegs, show "mod.rs" = "mod" ++ ".rs" from rfl,
      String.append_left_inj]
  have hmain : f = Path.join (splitSources f).1 "main.rs" ↔ dirs = [] ∧ stem = "main" :=
    hbelow.eq_join_iff "main" (by decide)
  rw [resolveImport_own, hbelow.modulePath_eq, hsources]
  -- the three ways in which a file may stand for its module
  by_cases hstem : stem = "mod"
  · subst hstem
    have hdirs : dirs ≠ [] :=
      fun h => hroot ((hbelow.eq_join_iff "mod" (by decide)).2 ⟨h, rfl⟩)
    rw [if_pos (.inl rfl), hbelow.firstExisting_of_mod hdirs (hnames f hf) hf]
    simp [hmod, hmain, hdirs]
  · by_cases htop : dirs = [] ∧ (stem = "lib" ∨ stem = "main")
    · obtain ⟨rfl, rfl | rfl⟩ := htop
      · have hlib := (hbelow.eq_join_iff "lib" (by decide)).2 ⟨rfl, rfl⟩
        rw [if_pos (.inr ⟨rfl, .inl rfl⟩), firstExisting_of_lib hlib hf]
        simp [hmod, hmain]
      · rw [if_pos (.inr ⟨rfl, .inr rfl⟩), firstExisting_of_main (hmain.2 ⟨rfl, rfl⟩) hf]
        simp [hmod, hmain]
    · have hmain' : ¬ f = Path.join (splitSources f).1 "main.rs" :=
        fun h => htop ⟨(hmain.1 h).1, .inr (hmain.1 h).2⟩
      rw [if_neg (not_or.2 ⟨hstem, htop⟩), hbelow.firstExisting_of_stem hf,
        if_neg fun h => hstem (hmod.1 h.1), if_neg fun h => hmain' h.1]

/-- Two crates: one with two files for its root and for a module, and one whose name for a module
ends like that of its sources. -/
def twins : ProjectFiles where
  paths := ["src/lib.rs", "src/main.rs", "src/net.rs", "src/net/mod.rs", "src/net/io.rs",
    "tools/src/mysrc/mod.rs"]
  goModule := none

theorem resolveImport_self_twins :
    (∀ path ∈ twins.paths, "" ∉ Path.segments path) ∧
      resolveImport .rust "self" "src/net/mod.rs" twins = some "src/net.rs" ∧
      resolveImport .rust "self" "src/main.rs" twins = some "src/lib.rs" ∧
      resolveImport .rust "self" "src/net/io.rs" twins = some "src/net/io.rs" ∧
      resolveImport .rust "self" "tools/src/mysrc/mod.rs" twins =
        some "tools/src/mysrc/mod.rs" := by
  have hnames : ∀ path ∈ twins.paths, "" ∉ Path.segments path := by decide +kernel
  refine ⟨hnames, ?_, ?_, ?_, ?_⟩
  all_goals
    rw [resolveImport_self twins hnames (by decide) (by decide +kernel) (by decide +kernel)]
    decide +kernel

end SourceAtlas
