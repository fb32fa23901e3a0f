import Mathlib.Data.List.Induction
import SourceAtlas.Proofs.Path.Segments
import SourceAtlas.Resolve.Family

/-!
# Every file can be imported by its relative path

From the directory of the importing file one climbs some levels up and goes down again to the file
that is meant.  Spelled out as an import this leads to that file, in every language whose imports
are paths and whatever else the project holds: the first path that is tried is the file itself.

* `Path.Climbs` — how far up one has to climb from a file, and what leads down from there;
* `Path.climb`, `scriptClimb`, `dottedClimb` — the spellings of such a way;
* `Path.resolve?_climb` — joining the spelling onto the directory of the importing file leads to the
  file that is meant;
* `resolveImport_climb` — so does the import.
-/

namespace SourceAtlas
namespace Path

/-- A segment that stands for a name: neither empty nor a dot of either kind. -/
def IsPlain (s : String) : Prop := s ≠ "" ∧ s ≠ "." ∧ s ≠ ".."

instance (s : String) : Decidable (IsPlain s) :=
  inferInstanceAs (Decidable (s ≠ "" ∧ s ≠ "." ∧ s ≠ ".."))

/-- Going `k` levels up from the directory of `importer` leads to a directory that holds `target`,
and `rest` are the segments of `target` below that directory. -/
def Climbs (importer target : String) (k : Nat) (rest : List String) : Prop :=
  ∃ base up own, segments importer = base ++ up ++ [own] ∧ up.length = k ∧
    segments target = base ++ rest ∧ rest ≠ []

/-- The way `k` levels up and then down along `rest`. -/
def climb : Nat → List String → String
  | 0, rest => ofSegments rest
  | k + 1, rest => "../" ++ climb k rest

/-- A segment without dots is plain. -/
theorem isPlain_of_dotless {s : String} (hne : s ≠ "") (h : '.' ∉ s.toList) : IsPlain s := by
  refine ⟨hne, ?_, ?_⟩ <;> rintro rfl <;> exact h (by decide)

/-! ## Joining the way onto a directory -/

theorem segments_climb {rest : List String} (hne : rest ≠ []) (h : ∀ s ∈ rest, '/' ∉ s.toList)
    (k : Nat) : segments (climb k rest) = List.replicate k ".." ++ rest := by
  induction k with
  | zero => exact segments_ofSegments hne h
  | succ k ih =>
      have hsplit : climb (k + 1) rest = ".." ++ "/" ++ climb k rest := rfl
      have hup : segments ".." = [".."] := segments_of_isName (by decide)
      rw [hsplit, segments_append_slash, ih, hup]
      rfl

theorem foldlM_stepInto_up (up dirs : List String) :
    (List.replicate up.length "..").foldlM stepInto (up ++ dirs) = some dirs := by
  induction up with
  | nil => rfl
  | cons s up ih => exact ih

theorem foldlM_stepInto_plain {segs : List String} (h : ∀ s ∈ segs, IsPlain s) :
    ∀ dirs, segs.foldlM stepInto dirs = some (segs.reverse ++ dirs) := by
  induction segs with
  | nil => exact fun _ => rfl
  | cons s segs ih =>
      intro dirs
      obtain ⟨⟨hempty, hdot, hup⟩, hsegs⟩ := List.forall_mem_cons.1 h
      have hstep : stepInto dirs s = some (s :: dirs) := by simp [stepInto, hempty, hdot, hup]
      rw [List.foldlM_cons, hstep, Option.bind_eq_bind, Option.bind_some, ih hsegs]
      simp

theorem resolve?_of_segments {dir relative : String} {base up rest : List String}
    (hdir : steps dir = base ++ up)
    (hrelative : segments relative = List.replicate up.length ".." ++ rest)
    (hrest : ∀ s ∈ rest, IsPlain s) : resolve? dir relative = some (ofSegments (base ++ rest)) := by
  have hclimb := foldlM_stepInto_up up.reverse base.reverse
  rw [List.length_reverse, ← List.reverse_append, ← hdir] at hclimb
  have hfold : (segments relative).foldlM stepInto (steps dir).reverse =
      some (rest.reverse ++ base.reverse) := by
    rw [hrelative, List.foldlM_append, hclimb]
    exact foldlM_stepInto_plain hrest _
  rw [steps] at hfold
  rw [resolve?, hfold, Option.map_some, List.reverse_append, List.reverse_reverse,
    List.reverse_reverse]

/-- A dot and a slash at the front of a way change nothing. -/
theorem resolve?_here (dir relative : String) :
    resolve? dir ("./" ++ relative) = resolve? dir relative := by
  have hsplit : "./" ++ relative = "." ++ "/" ++ relative := rfl
  have hhere : segments "." = ["."] := segments_of_isName (by decide)
  rw [resolve?, hsplit, segments_append_slash, hhere]
  rfl

section Climbs

variable {importer target : String} {k : Nat} {rest : List String}

theorem isName_of_plain {path : String} (h : ∀ s ∈ segments path, IsPlain s) :
    ∀ s ∈ segments path, IsName s :=
  fun s hs => ⟨(h s hs).1, slash_not_mem_of_mem_segments hs⟩

/-- **The way leads where it should.** -/
theorem resolve?_climb (himporter : ∀ s ∈ segments importer, IsPlain s)
    (htarget : ∀ s ∈ segments target, IsPlain s) (h : Climbs importer target k rest) :
    resolve? (parent importer) (climb k rest) = some target := by
  obtain ⟨base, up, own, hsegs, rfl, htsegs, hne⟩ := h
  have hrest : ∀ s ∈ rest, s ∈ segments target := fun s hs => by simp [htsegs, hs]
  have hdirs : ∀ s ∈ base ++ up, IsName s :=
    fun s hs => isName_of_plain himporter s (by rw [hsegs]; exact List.mem_append_left _ hs)
  have hresolve := @resolve?_of_segments (parent importer) (climb up.length rest) base up rest
    (by rw [parent_of_segments hsegs, steps_ofSegments hdirs])
    (segments_climb hne (fun s hs => slash_not_mem_of_mem_segments (hrest s hs)) _)
    (fun s hs => htarget s (hrest s hs))
  rw [hresolve, ← htsegs, ofSegments_segments]

/-- The way ends like the file that it leads to. -/
theorem endsWith_climb (h : Climbs importer target k rest) {tail : String}
    (htail : '/' ∉ tail.toList) (hending : Text.endsWith target tail = true) :
    Text.endsWith (climb k rest) tail = true := by
  obtain ⟨base, up, -, -, rfl, htsegs, hne⟩ := h
  have hlast := List.dropLast_concat_getLast hne
  have hslash : ∀ s ∈ rest, '/' ∉ s.toList := by
    intro s hs
    refine @slash_not_mem_of_mem_segments target s ?_
    rw [htsegs]
    exact List.mem_append_right _ hs
  have hclimb := segments_climb hne hslash up.length
  rw [← hlast, ← List.append_assoc] at htsegs
  nth_rewrite 2 [← hlast] at hclimb
  rw [← List.append_assoc] at hclimb
  rw [endsWith_iff_of_segments hclimb htail]
  exact (endsWith_iff_of_segments htsegs htail).1 hending

/-- The way does not begin with a slash. -/
theorem head?_climb_ne_slash (htarget : ∀ s ∈ segments target, IsPlain s)
    (h : Climbs importer target k rest) : (climb k rest).toList.head? ≠ some '/' := by
  obtain ⟨base, up, -, -, rfl, htsegs, hne⟩ := h
  have hrest : ∀ s ∈ rest, s ∈ segments target := fun s hs => by simp [htsegs, hs]
  have hsegs := segments_climb hne
    (fun s hs => slash_not_mem_of_mem_segments (hrest s hs)) up.length
  intro hhead
  obtain ⟨tail, htail⟩ := List.head?_eq_some_iff.1 hhead
  -- What begins with a slash has an empty segment in front of it.
  have hempty : "" ∈ segments (climb up.length rest) := by
    simp [segments, htail, List.splitOn_cons_eq_if_modifyHead]
  rw [hsegs] at hempty
  rcases List.mem_append.1 hempty with hup | hmem
  · exact absurd (List.eq_of_mem_replicate hup) (by decide)
  · exact (htarget "" (hrest "" hmem)).1 rfl

end Climbs

end Path

/-! ## The first candidate -/

theorem ProjectFiles.firstExisting_cons {files : ProjectFiles} {path : String}
    (h : path ∈ files.paths) (others : List String) :
    files.firstExisting (path :: others) = some path := by
  have hcontains : files.contains path = true := List.contains_iff_mem.2 h
  rw [firstExisting, List.find?_cons_of_pos hcontains]

namespace Resolve

open SourceAtlas.Path

variable {files : ProjectFiles} {name importer target : String}

/-- Where several directories are tried, that of the importing file is the first. -/
theorem firstExisting_filterMap (hname : resolve? (parent importer) name = some target)
    (htarget : target ∈ files.paths) (dirs : List String) :
    files.firstExisting ((parent importer :: dirs).filterMap (resolve? · name)) = some target := by
  rw [List.filterMap_cons, hname]
  exact ProjectFiles.firstExisting_cons htarget _

theorem native_of_resolve? (hname : resolve? (parent importer) name = some target)
    (htarget : target ∈ files.paths) : native name importer files = some target := by
  rw [native, nativeCandidates, firstExisting_filterMap hname htarget, Option.some_or]

theorem ruby_of_resolve? (hname : resolve? (parent importer) name = some target)
    (htarget : target ∈ files.paths) (hending : Text.endsWith name ".rb" = true) :
    files.firstExisting (rubyCandidates name importer) = some target := by
  simp only [rubyCandidates, hending, if_true]
  exact firstExisting_filterMap hname htarget _

theorem php_of_resolve? (hname : resolve? (parent importer) name = some target)
    (htarget : target ∈ files.paths) (hending : Text.endsWith name ".php" = true)
    (hhead : name.toList.head? ≠ some '/') : php name importer files = some target := by
  have hrelative : name.toList.dropWhile (· = '/') = name.toList := by
    cases hchars : name.toList with
    | nil => rfl
    | cons c rest =>
        have hc : c ≠ '/' := by simpa [hchars] using hhead
        simp [hc]
  simp only [php, hending, Bool.true_or, if_true, phpIncludeCandidates, hrelative,
    String.ofList_toList]
  exact firstExisting_filterMap hname htarget _

theorem script_of_resolve? (hname : resolve? (parent importer) name = some target)
    (htarget : target ∈ files.paths) (hrelative : isRelativeScript name = true) :
    files.firstExisting (scriptCandidates name importer) = some target := by
  simp only [scriptCandidates, hrelative, Bool.not_true, Bool.false_eq_true, if_false, hname]
  exact ProjectFiles.firstExisting_cons htarget _

/-! ## Dotted imports -/

theorem parentOfDir?_ofSegments {dirs : List String} {own : String}
    (h : ∀ s ∈ dirs ++ [own], IsName s) :
    parentOfDir? (ofSegments (dirs ++ [own])) = some (ofSegments dirs) := by
  have hsegs : segments (ofSegments (dirs ++ [own])) = dirs ++ [own] :=
    segments_ofSegments (by simp) fun s hs => (h s hs).2
  rw [parentOfDir?, if_neg (ofSegments_concat_ne_empty h), parent_of_segments hsegs]

theorem ancestor?_ofSegments (base : List String) {up : List String} :
    (∀ s ∈ base ++ up, IsName s) →
      ancestor? up.length (ofSegments (base ++ up)) = some (ofSegments base) := by
  induction up using List.reverseRecOn with
  | nil =>
      intro _
      rw [List.append_nil]
      rfl
  | append_singleton up own ih =>
      intro h
      rw [← List.append_assoc] at h ⊢
      rw [List.length_append, List.length_singleton, ancestor?, parentOfDir?_ofSegments h]
      exact ih fun s hs => h s (List.mem_append_left _ hs)

/-- Dots between segments without dots become slashes. -/
theorem replaceChar_joinWith {segs : List String} (h : ∀ s ∈ segs, '.' ∉ s.toList) :
    Text.replaceChar '.' '/' (Text.joinWith "." segs) = ofSegments segs := by
  rw [← String.toList_inj, Text.replaceChar, Text.joinWith, String.toList_ofList,
    String.toList_ofList, toList_ofSegments]
  have hdot : ".".toList = ['.'] := rfl
  rw [hdot]
  induction segs with
  | nil => rfl
  | cons s others ih =>
      obtain ⟨hs, hothers⟩ := List.forall_mem_cons.1 h
      have hkeep : s.toList.map (fun c => if c = '.' then '/' else c) = s.toList := by
        refine (List.map_congr_left fun c hc => ?_).trans (List.map_id _)
        have hne : c ≠ '.' := fun hdot => hs (hdot ▸ hc)
        exact if_neg hne
      have hrest := ih hothers
      cases others with
      | nil => simpa using hkeep
      | cons second others =>
          simp only [List.map_cons, List.intercalate_cons_cons, List.map_append] at hrest ⊢
          rw [hrest, hkeep]
          rfl

/-- The spelling of a way by dots: one for the directory of the importing file and one more for each
level up. -/
def dottedClimb (k : Nat) (segs : List String) : String :=
  String.ofList (List.replicate (k + 1) '.') ++ Text.joinWith "." segs

/-- The dots in front are told from those between the segments. -/
theorem dottedClimb_parts (k : Nat) {segs : List String} (hne : segs ≠ [])
    (hempty : "" ∉ segs) (hdots : ∀ s ∈ segs, '.' ∉ s.toList) :
    ((dottedClimb k segs).toList.takeWhile (· = '.')).length = k + 1 ∧
      String.ofList ((dottedClimb k segs).toList.drop (k + 1)) = Text.joinWith "." segs := by
  have hchars : (dottedClimb k segs).toList =
      List.replicate (k + 1) '.' ++ (Text.joinWith "." segs).toList := by
    rw [dottedClimb, String.toList_append, String.toList_ofList]
  have hfirst : (Text.joinWith "." segs).toList.takeWhile (· = '.') = [] := by
    obtain ⟨first, others, rfl⟩ := List.exists_cons_of_ne_nil hne
    have hchars : first.toList ≠ [] := fun h => hempty (by simp_all)
    obtain ⟨c, rest, hc⟩ := List.exists_cons_of_ne_nil hchars
    have hdot : c ≠ '.' := fun h => hdots first List.mem_cons_self (by simp [hc, h])
    rw [Text.joinWith, String.toList_ofList]
    cases others <;> simp [hc, hdot, List.intercalate_cons_cons]
  rw [hchars]
  constructor
  · rw [List.takeWhile_append_of_pos (by simp), hfirst, List.append_nil, List.length_replicate]
  · rw [List.drop_append_of_le_length (by simp)]
    simp

theorem python_dottedClimb {base up dirs : List String} {own stem : String}
    (himporter : segments importer = base ++ up ++ [own]) (hnames : ∀ s ∈ base ++ up, IsName s)
    (hsteps : ∀ s ∈ dirs ++ [stem], IsName s) (hdotless : ∀ s ∈ dirs ++ [stem], '.' ∉ s.toList)
    (htarget : ofSegments (base ++ dirs ++ [stem ++ ".py"]) ∈ files.paths) :
    files.firstExisting (pythonCandidates (dottedClimb up.length (dirs ++ [stem])) importer) =
      some (ofSegments (base ++ dirs ++ [stem ++ ".py"])) := by
  have hne : dirs ++ [stem] ≠ [] := by simp
  obtain ⟨hdots, hmodule⟩ := dottedClimb_parts up.length hne
    (fun hempty => (hsteps "" hempty).1 rfl) hdotless
  have hsegs : segments (ofSegments (dirs ++ [stem])) = dirs ++ [stem] :=
    segments_ofSegments hne fun s hs => (hsteps s hs).2
  have hpath : ofSegments (dirs ++ [stem]) ≠ "" := ofSegments_concat_ne_empty hsteps
  have hbase : steps (ofSegments base) = base ++ [] := by
    rw [List.append_nil, steps_ofSegments fun s hs => hnames s (List.mem_append_left _ hs)]
  have hresolve : resolve? (ofSegments base) (ofSegments (dirs ++ [stem])) =
      some (ofSegments (base ++ (dirs ++ [stem]))) :=
    resolve?_of_segments hbase hsegs fun s hs => isPlain_of_dotless (hsteps s hs).1 (hdotless s hs)
  simp only [pythonCandidates, hdots, hmodule, Nat.zero_lt_succ, if_true, Nat.add_sub_cancel,
    parent_of_segments himporter, ancestor?_ofSegments base hnames,
    replaceChar_joinWith hdotless]
  rw [pythonModuleCandidates, hresolve]
  simp only [hpath, if_false]
  rw [← List.append_assoc, ofSegments_concat_append]
  exact ProjectFiles.firstExisting_cons htarget _

/-- The spelling of a way that is told from the name of a package by the dot at its front. -/
def scriptClimb (k : Nat) (rest : List String) : String :=
  if k = 0 then "./" ++ climb k rest else climb k rest

theorem isRelativeScript_scriptClimb (k : Nat) (rest : List String) :
    isRelativeScript (scriptClimb k rest) = true := by
  have hhere : "./".toList = ['.', '/'] := rfl
  have hup : "../".toList = ['.', '.', '/'] := rfl
  cases k with
  | zero => simp [scriptClimb, isRelativeScript, Text.startsWith, hhere]
  | succ k => simp [scriptClimb, climb, isRelativeScript, Text.startsWith, hhere, hup]

theorem resolve?_scriptClimb (dir : String) (k : Nat) (rest : List String) :
    resolve? dir (scriptClimb k rest) = resolve? dir (climb k rest) := by
  rw [scriptClimb]
  split
  · exact resolve?_here dir _
  · rfl

end Resolve

theorem resolveImport_of_family {l : Language} {family : ImportFamily}
    (h : ImportFamily.of? l = some family) (name importer : String) (files : ProjectFiles) :
    resolveImport l name importer files = family.resolve name importer files := by
  rw [resolveImport, h, Option.bind_some]

open SourceAtlas.Path Resolve in
/-- **Every file can be imported by its relative path.**  In a project whose paths have only plain
segments, take any two of its files, and any way from the directory of the one up to a directory
that holds the other, and down again.  The import that spells this way means the other file: in C
and C++; in Ruby and PHP if the file has the ending of the language; in JavaScript and TypeScript;
and in Python, spelled with dots and without the ending, if there are no other dots in the way. -/
theorem resolveImport_climb {files : ProjectFiles}
    (hplain : ∀ path ∈ files.paths, ∀ s ∈ segments path, IsPlain s)
    {importer target : String} (himporter : importer ∈ files.paths)
    (htarget : target ∈ files.paths) {k : Nat} {rest : List String}
    (h : Climbs importer target k rest) :
    resolveImport .c (climb k rest) importer files = some target ∧
      resolveImport .cpp (climb k rest) importer files = some target ∧
      (Text.endsWith target ".rb" = true →
        resolveImport .ruby (climb k rest) importer files = some target) ∧
      (Text.endsWith target ".php" = true →
        resolveImport .php (climb k rest) importer files = some target) ∧
      resolveImport .javaScript (scriptClimb k rest) importer files = some target ∧
      resolveImport .typeScript (scriptClimb k rest) importer files = some target ∧
      (∀ dirs stem, rest = dirs ++ [stem ++ ".py"] → stem ≠ "" →
        (∀ s ∈ dirs ++ [stem], '.' ∉ s.toList) →
        resolveImport .python (dottedClimb k (dirs ++ [stem])) importer files = some target) := by
  have hname := resolve?_climb (hplain importer himporter) (hplain target htarget) h
  have hscript : resolve? (parent importer) (scriptClimb k rest) = some target :=
    (resolve?_scriptClimb _ k rest).trans hname
  have hjs := script_of_resolve? hscript htarget (isRelativeScript_scriptClimb k rest)
  refine ⟨?_, ?_, ?_, ?_, ?_, ?_, ?_⟩
  · rw [resolveImport_of_family (show ImportFamily.of? .c = some .native by decide)]
    exact native_of_resolve? hname htarget
  · rw [resolveImport_of_family (show ImportFamily.of? .cpp = some .native by decide)]
    exact native_of_resolve? hname htarget
  · intro hending
    rw [resolveImport_of_family (show ImportFamily.of? .ruby = some .ruby by decide)]
    exact ruby_of_resolve? hname htarget (endsWith_climb h (by decide) hending)
  · intro hending
    rw [resolveImport_of_family (show ImportFamily.of? .php = some .php by decide)]
    exact php_of_resolve? hname htarget (endsWith_climb h (by decide) hending)
      (head?_climb_ne_slash (hplain target htarget) h)
  · rw [resolveImport_of_family (show ImportFamily.of? .javaScript = some .script by decide)]
    exact hjs
  · rw [resolveImport_of_family (show ImportFamily.of? .typeScript = some .script by decide)]
    exact hjs
  · rintro dirs stem rfl hstem hdots
    obtain ⟨base, up, own, hsegs, rfl, htsegs, -⟩ := h
    have hdirs : ∀ s ∈ base ++ up, IsName s := fun s hs =>
      isName_of_plain (hplain importer himporter) s (by rw [hsegs]; exact List.mem_append_left _ hs)
    have hlast : IsName (stem ++ ".py") :=
      isName_of_plain (hplain target htarget) _ (by simp [htsegs])
    have hsteps : ∀ s ∈ dirs ++ [stem], IsName s := by
      intro s hs
      rcases List.mem_append.1 hs with hs | hs
      · exact isName_of_plain (hplain target htarget) s (by simp [htsegs, hs])
      · obtain rfl : s = stem := by simpa using hs
        refine ⟨hstem, fun hslash => hlast.2 ?_⟩
        rw [String.toList_append]
        exact List.mem_append_left _ hslash
    have hpath : ofSegments (base ++ dirs ++ [stem ++ ".py"]) = target := by
      rw [List.append_assoc, ← htsegs, ofSegments_segments]
    rw [← hpath] at htarget ⊢
    rw [resolveImport_of_family (show ImportFamily.of? .python = some .python by decide)]
    exact python_dottedClimb hsegs hdirs hsteps hdots htarget

/-- A project in which other files look like the ones that are meant. -/
def lookalikes : ProjectFiles where
  paths :=
    ["app/web/view.py", "app/db/user.py", "app/db/user/__init__.py", "app/web/db/user.py",
     "db/user.py", "lib/app.rb", "lib/tool.rb", "tool.rb", "lib/tool.php", "tool.php"]
  goModule := none

open SourceAtlas.Path Resolve in
/-- One level up and down again, and a file in the same directory. -/
theorem resolveImport_climb_lookalikes :
    (∀ path ∈ lookalikes.paths, ∀ s ∈ segments path, IsPlain s) ∧
      Climbs "app/web/view.py" "app/db/user.py" 1 ["db", "user.py"] ∧
      resolveImport .c "../db/user.py" "app/web/view.py" lookalikes = some "app/db/user.py" ∧
      resolveImport .typeScript "../db/user.py" "app/web/view.py" lookalikes =
        some "app/db/user.py" ∧
      resolveImport .python "..db.user" "app/web/view.py" lookalikes = some "app/db/user.py" ∧
      Climbs "lib/app.rb" "lib/tool.rb" 0 ["tool.rb"] ∧
      resolveImport .ruby "tool.rb" "lib/app.rb" lookalikes = some "lib/tool.rb" ∧
      resolveImport .javaScript "./tool.rb" "lib/app.rb" lookalikes = some "lib/tool.rb" ∧
      Climbs "lib/app.rb" "lib/tool.php" 0 ["tool.php"] ∧
      resolveImport .php "tool.php" "lib/app.rb" lookalikes = some "lib/tool.php" := by
  have hplain : ∀ path ∈ lookalikes.paths, ∀ s ∈ segments path, IsPlain s := by decide +kernel
  have hup : Climbs "app/web/view.py" "app/db/user.py" 1 ["db", "user.py"] :=
    ⟨["app"], ["web"], "view.py", by decide +kernel, rfl, by decide +kernel, by decide⟩
  have hruby : Climbs "lib/app.rb" "lib/tool.rb" 0 ["tool.rb"] :=
    ⟨["lib"], [], "app.rb", by decide +kernel, rfl, by decide +kernel, by decide⟩
  have hphp : Climbs "lib/app.rb" "lib/tool.php" 0 ["tool.php"] :=
    ⟨["lib"], [], "app.rb", by decide +kernel, rfl, by decide +kernel, by decide⟩
  obtain ⟨hc, -, -, -, -, htypeScript, hpython⟩ :=
    resolveImport_climb hplain (by decide) (by decide) hup
  obtain ⟨-, -, hrb, -, hjavaScript, -, -⟩ :=
    resolveImport_climb hplain (by decide) (by decide) hruby
  obtain ⟨-, -, -, hinclude, -, -, -⟩ := resolveImport_climb hplain (by decide) (by decide) hphp
  have hmodule := hpython ["db"] "user" rfl (by decide) (by decide)
  rw [show climb 1 ["db", "user.py"] = "../db/user.py" by decide +kernel] at hc
  rw [show scriptClimb 1 ["db", "user.py"] = "../db/user.py" by decide +kernel] at htypeScript
  rw [show dottedClimb 1 (["db"] ++ ["user"]) = "..db.user" by decide +kernel] at hmodule
  rw [show climb 0 ["tool.rb"] = "tool.rb" by decide +kernel] at hrb
  rw [show scriptClimb 0 ["tool.rb"] = "./tool.rb" by decide +kernel] at hjavaScript
  rw [show climb 0 ["tool.php"] = "tool.php" by decide +kernel] at hinclude
  exact ⟨hplain, hup, hc, htypeScript, hmodule, hruby, hrb (by decide), hjavaScript, hphp,
    hinclude (by decide)⟩

end SourceAtlas
