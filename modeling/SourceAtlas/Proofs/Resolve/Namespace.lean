import Mathlib.Data.List.ModifyLast
import SourceAtlas.Proofs.Resolve.Relative
import SourceAtlas.Proofs.Text.Cut

/-!
# Namespaces and the ends of paths

A namespace gives only the end of the path of a file: where the sources of a project begin is not
said, and often its first names are not directories at all.  So a language asks for several ends in
turn, and the answer is the first file, in the order of the project, that fits the first question
that any file fits.  An end is compared as text, behind a slash; this amounts to a comparison of
whole segments, and a directory `xcom` is never taken for `com`.

* `ProjectFiles.Answers` — the answer to questions that are asked in turn.  There is exactly one
  (`Answers.eq_iff`), and searches that follow one another answer their questions one after another
  (`Answers.append`, `answers_findSome?`).
* `Path.eq_or_endsWith_iff` — the ends of a path behind a slash are the ends of its segments.
* `jvmQuestions`, `cSharpQuestions`, `phpQuestions` — what is asked for the segments of a name;
  `jvm_answers`, `cSharp_answers`, `phpNamespace_answers` — that this is what is answered.
* `native_eq_some_iff` — in C and C++ a header that is not where it is looked for first is found
  only if no other file has the same end.
* `resolveImport_namespaces` — all of this for the imports of a project.
-/

namespace SourceAtlas

/-! ## Questions to a project -/

namespace ProjectFiles

/-- A file with a property that no file before it in project order has. -/
def IsFirst (files : ProjectFiles) (p : String → Prop) (path : String) : Prop :=
  p path ∧ ∃ before after, files.paths = before ++ path :: after ∧ ∀ other ∈ before, ¬ p other

/-- The only file with a property. -/
def IsOnly (files : ProjectFiles) (p : String → Prop) (path : String) : Prop :=
  p path ∧ ∃ before after, files.paths = before ++ path :: after ∧
    ∀ other ∈ before ++ after, ¬ p other

/-- The answer to questions that are asked in turn: the first file that fits the first question
that any file fits, and nothing when there is none. -/
inductive Answers (files : ProjectFiles) : List (String → Prop) → Option String → Prop
  | nothing : files.Answers [] none
  | found {p ps path} : files.IsFirst p path → files.Answers (p :: ps) (some path)
  | next {p ps answer} : (∀ path ∈ files.paths, ¬ p path) → files.Answers ps answer →
      files.Answers (p :: ps) answer

variable {files : ProjectFiles} {path : String} {p : String → Prop} {q : String → Bool}
  {ps qs : List (String → Prop)} {a b : Option String}

theorem find?_eq_some_iff_isFirst (h : ∀ path, q path = true ↔ p path) :
    files.paths.find? q = some path ↔ files.IsFirst p path := by
  rw [List.find?_eq_some_iff_append, IsFirst]
  simp only [h, Bool.not_eq_true', ← Bool.not_eq_true]

theorem IsFirst.unique {other : String} (h : files.IsFirst p path)
    (hother : files.IsFirst p other) : path = other := by
  classical
  have hp : ∀ path, decide (p path) = true ↔ p path := fun _ => decide_eq_true_iff
  rw [← find?_eq_some_iff_isFirst hp] at h hother
  exact Option.some_inj.1 (h.symm.trans hother)

theorem IsFirst.not_forall (h : files.IsFirst p path) : ¬ ∀ path ∈ files.paths, ¬ p path := by
  obtain ⟨hpath, before, after, hpaths, -⟩ := h
  exact fun hnone => hnone path (by simp [hpaths]) hpath

/-- Questions that are asked in turn have one answer. -/
theorem Answers.eq_iff (ha : files.Answers ps a) : a = b ↔ files.Answers ps b := by
  refine ⟨fun h => h ▸ ha, fun hb => ?_⟩
  induction ha with
  | nothing =>
      cases hb
      rfl
  | found hfirst =>
      cases hb with
      | found hother => rw [hfirst.unique hother]
      | next hnone _ => exact absurd hnone hfirst.not_forall
  | next hnone _ ih =>
      cases hb with
      | found hother => exact absurd hnone hother.not_forall
      | next _ hrest => exact ih hrest

/-! ### Closure of `Answers` -/

theorem answers_find? (h : ∀ path, q path = true ↔ p path) :
    files.Answers [p] (files.paths.find? q) := by
  cases hfind : files.paths.find? q with
  | some path => exact .found ((find?_eq_some_iff_isFirst h).1 hfind)
  | none =>
      have hnone : ∀ path ∈ files.paths, ¬ p path := by
        simpa [h] using List.find?_eq_none.1 hfind
      exact .next hnone .nothing

theorem Answers.append (ha : files.Answers ps a) (hb : files.Answers qs b) :
    files.Answers (ps ++ qs) (a.or b) := by
  induction ha with
  | nothing => exact hb
  | found hfirst => exact .found hfirst
  | next hnone _ ih => exact .next hnone ih

theorem answers_findSome? {α : Type} {asked : α → List (String → Prop)} {ask : α → Option String}
    (h : ∀ x, files.Answers (asked x) (ask x)) (xs : List α) :
    files.Answers (xs.flatMap asked) (xs.findSome? ask) := by
  induction xs with
  | nil => exact .nothing
  | cons x xs ih =>
      have hor : (x :: xs).findSome? ask = (ask x).or (xs.findSome? ask) := by
        rw [List.findSome?_cons]
        cases ask x <;> rfl
      rw [List.flatMap_cons, hor]
      exact (h x).append ih

theorem filter_eq_singleton_iff_isOnly (h : ∀ path, q path = true ↔ p path) :
    files.paths.filter q = [path] ↔ files.IsOnly p path := by
  rw [List.filter_eq_cons_iff, IsOnly]
  simp only [List.filter_eq_nil_iff, List.forall_mem_append, h]
  constructor
  · rintro ⟨before, after, hpaths, hbefore, hpath, hafter⟩
    exact ⟨hpath, before, after, hpaths, hbefore, hafter⟩
  · rintro ⟨hpath, before, after, hpaths, hbefore, hafter⟩
    exact ⟨before, after, hpaths, hbefore, hpath, hafter⟩

theorem onlyEndingIn_eq_some_iff (tail : String) :
    files.onlyEndingIn tail = some path ↔ files.paths.filter (endsInSegments · tail) = [path] := by
  unfold onlyEndingIn
  split
  · rename_i only honly
    simp [honly]
  · rename_i hnot
    exact iff_of_false (by simp) (hnot path)

end ProjectFiles

/-! ## The ends of paths -/

namespace Path

/-- A path ends in the segments of another one if it is that path, or ends in a slash and it. -/
theorem eq_or_endsWith_iff (path tail : String) :
    (path = tail ∨ ∃ front, path = front ++ "/" ++ tail) ↔ segments tail <:+ segments path := by
  constructor
  · rintro (rfl | ⟨front, rfl⟩)
    · exact List.suffix_refl _
    · rw [segments_append_slash]
      exact List.suffix_append _ _
  · rintro ⟨above, hsegs⟩
    by_cases habove : above = []
    · left
      rw [← ofSegments_segments path, ← hsegs, habove, List.nil_append, ofSegments_segments]
    · right
      refine ⟨ofSegments above, ?_⟩
      rw [← ofSegments_segments path, ← hsegs, ofSegments_append habove (segments_ne_nil tail),
        ofSegments_segments]

/-- What is added to a path without a slash is added to its last segment. -/
theorem segments_append (path : String) {tail : String} (htail : '/' ∉ tail.toList) :
    segments (path ++ tail) = (segments path).modifyLast (· ++ tail) := by
  obtain ⟨dirs, own, hsegs⟩ : ∃ dirs own, segments path = dirs ++ [own] :=
    ⟨_, _, (List.dropLast_concat_getLast (segments_ne_nil path)).symm⟩
  have hslash : ∀ s ∈ dirs ++ [own ++ tail], '/' ∉ s.toList := by
    intro s hs
    rcases List.mem_append.1 hs with hs | hs
    · exact slash_not_mem_of_mem_segments (hsegs ▸ List.mem_append_left _ hs)
    · have hown : '/' ∉ own.toList :=
        slash_not_mem_of_mem_segments (hsegs ▸ List.mem_append_right _ List.mem_cons_self)
      rw [List.mem_singleton.1 hs, String.toList_append, List.mem_append, not_or]
      exact ⟨hown, htail⟩
  rw [hsegs, List.modifyLast_concat, ← segments_ofSegments (by simp) hslash,
    ← ofSegments_concat_append, ← hsegs, ofSegments_segments]

theorem hasExtension_singleton {path ext : String} (hext : '.' ∉ ext.toList) :
    hasExtension path [ext] = true ↔ Text.endsWith path ("." ++ ext) = true := by
  have hdot : ".".toList = ['.'] := rfl
  rw [hasExtension, extension?, Option.any_map, Option.any_eq_true, Text.endsWith,
    List.isSuffixOf_iff_suffix, String.toList_append, hdot, List.singleton_append]
  constructor
  · rintro ⟨⟨before, after⟩, hcut, heq⟩
    obtain ⟨hpath, -⟩ := Text.cutLast?_eq_some_iff.1 hcut
    have hafter : String.ofList after = ext := by simpa using heq
    rw [hpath, ← hafter, String.toList_ofList]
    exact List.suffix_append _ _
  · rintro ⟨before, hpath⟩
    refine ⟨(before, ext.toList), ?_, by simp⟩
    exact Text.cutLast?_eq_some_iff.2 ⟨hpath.symm, hext⟩

/-- A path is a single segment, or its first segment with the rest behind a slash. -/
theorem segments_cases (path : String) :
    '/' ∉ path.toList ∧ segments path = [path] ∨
      ∃ first rest : String, path.toList = first.toList ++ '/' :: rest.toList ∧
        '/' ∉ first.toList ∧ segments path = first :: segments rest := by
  by_cases hslash : '/' ∈ path.toList
  · right
    obtain ⟨first, rest, hpath, hfirst⟩ := List.eq_append_cons_of_mem hslash
    refine ⟨String.ofList first, String.ofList rest, by simpa using hpath, by simpa using hfirst, ?_⟩
    rw [segments, hpath, List.splitOn_append_cons_self, List.splitOn_eq_singleton hfirst, segments]
    simp
  · exact .inl ⟨hslash, segments_of_not_mem hslash⟩

theorem length_segments_pos (path : String) : 0 < (segments path).length :=
  List.length_pos_iff.2 (segments_ne_nil path)

theorem slash_mem_iff (path : String) : '/' ∈ path.toList ↔ 2 ≤ (segments path).length := by
  rcases segments_cases path with ⟨hslash, hsegs⟩ | ⟨first, rest, hpath, -, hsegs⟩
  · simp [hslash, hsegs]
  · have hrest := length_segments_pos rest
    rw [hsegs, List.length_cons, hpath]
    simp
    omega

theorem segments_parent {path : String} (h : (segments path).dropLast ≠ []) :
    segments (parent path) = (segments path).dropLast :=
  segments_ofSegments h fun _ hs => slash_not_mem_of_mem_segments (List.dropLast_subset _ hs)

theorem slash_mem_parent_iff (path : String) :
    '/' ∈ (parent path).toList ↔ 3 ≤ (segments path).length := by
  by_cases h : (segments path).dropLast = []
  · have hlength : (segments path).length - 1 = 0 := by rw [← List.length_dropLast, h]; rfl
    have hparent : parent path = "" := by rw [parent, h]; rfl
    rw [hparent]
    simp
    omega
  · rw [slash_mem_iff, segments_parent h, List.length_dropLast]
    omega

end Path

/-! ## Small letters -/

namespace Text

/-- The images under a table of shifts lie above a bound that every shifted range begins above. -/
theorem ShiftTable.lt_of_image? (bound : Nat) {table : ShiftTable}
    (h : ∀ range ∈ table, (bound : Int) < range.1 + range.2.2.2) {n m : Nat}
    (himage : table.image? n = some m) : bound < m := by
  induction table with
  | nil => cases himage
  | cons range table ih =>
      obtain ⟨first, last, step, shift⟩ := range
      obtain ⟨hrange, htable⟩ := List.forall_mem_cons.1 h
      rw [ShiftTable.image?] at himage
      split at himage
      · cases himage
      · split at himage
        · cases himage
          simp only at hrange
          omega
        · exact ih htable himage

theorem ofNat_ne_slash {n : Nat} (h : 0x2F < n) : Char.ofNat n ≠ '/' := by
  intro heq
  by_cases hvalid : n.isValidChar
  · rw [Char.ofNat, dif_pos hvalid] at heq
    have hnat : n = 0x2F := congrArg Char.toNat heq
    omega
  · rw [Char.ofNat, dif_neg hvalid] at heq
    exact absurd heq (by decide)

theorem slash_not_mem_smallForm {c : Char} (hc : c ≠ '/') : '/' ∉ smallForm c := by
  unfold smallForm
  split
  · decide
  · split
    · rename_i n himage
      have hbound := ShiftTable.lt_of_image? 0x2F (by decide +kernel) himage
      simpa using (ofNat_ne_slash hbound).symm
    · simpa using hc.symm

theorem slash_not_mem_loweredAfter (before : List Char) {s : List Char} (hs : '/' ∉ s) :
    '/' ∉ loweredAfter before s := by
  induction s generalizing before with
  | nil => simp [loweredAfter]
  | cons c s ih =>
      rw [List.mem_cons, not_or] at hs
      rw [loweredAfter, List.mem_append, not_or]
      refine ⟨?_, ih _ hs.2⟩
      split
      · split <;> decide
      · exact slash_not_mem_smallForm (Ne.symm hs.1)

/-- No slash comes from a letter. -/
theorem slash_not_mem_lowered {s : String} (hs : '/' ∉ s.toList) : '/' ∉ (lowered s).toList := by
  rw [lowered, String.toList_ofList]
  exact slash_not_mem_loweredAfter [] hs

end Text

/-! ## What is asked for a namespace -/

namespace Resolve

/-- A path ends in the segments `segs`. -/
def EndsIn (segs : List String) (path : String) : Prop := segs <:+ Path.segments path

/-- A file with an extension lies directly in a directory that ends in the segments `segs`. -/
def LiesIn (segs : List String) (ext path : String) : Prop :=
  EndsIn segs (Path.parent path) ∧ Text.endsWith path ("." ++ ext) = true

/-- Segments with an extension added to the last one. -/
def withExtension (segs : List String) (ext : String) : List String :=
  segs.modifyLast (· ++ ("." ++ ext))

/-- The segments of a name with dots between them. -/
def dottedSegments (name : String) : List String :=
  Path.segments (Text.replaceChar '.' '/' name)

/-- The segments of a name with backslashes between them, and perhaps at its front. -/
def namespaceSegments (name : String) : List String :=
  Path.segments
    (Text.replaceChar '\\' '/' (String.ofList (name.toList.dropWhile (· = '\\'))))

/-- A file of the type, of the type around it, or any of the package. -/
def jvmQuestions (segs : List String) : List (String → Prop) :=
  ["java", "kt", "kts"].map (fun ext => EndsIn (withExtension segs ext)) ++
    (if Path.ofSegments segs.dropLast = "" then []
      else ["java", "kt", "kts"].map fun ext => EndsIn (withExtension segs.dropLast ext)) ++
    (if 3 ≤ segs.length then [LiesIn segs.dropLast "kt"] else [])

/-- A file of the namespace, or any in its directory; then the same without the first segment. -/
def cSharpQuestions (segs : List String) : List (String → Prop) :=
  [EndsIn (withExtension segs "cs"), LiesIn segs "cs"] ++
    (if 2 ≤ segs.length then [EndsIn (withExtension segs.tail "cs"), LiesIn segs.tail "cs"]
      else [])

/-- A file of the class; then with the first segment in small letters, and without it. -/
def phpQuestions (segs : List String) : List (String → Prop) :=
  [EndsIn (withExtension segs "php")] ++
    (if 2 ≤ segs.length then
      [EndsIn (withExtension (segs.modifyHead Text.lowered) "php"),
        EndsIn (withExtension segs.tail "php")]
      else [])

open ProjectFiles (endsInSegments)

theorem endsInSegments_iff (path tail : String) :
    endsInSegments path tail = true ↔ EndsIn (Path.segments tail) path := by
  rw [EndsIn, ← Path.eq_or_endsWith_iff, endsInSegments, Bool.or_eq_true, beq_iff_eq,
    Text.endsWith_iff]
  simp only [String.append_assoc]

theorem segments_withExtension (stem : String) {ext : String} (hext : '/' ∉ ext.toList) :
    Path.segments (stem ++ ("." ++ ext)) = withExtension (Path.segments stem) ext := by
  rw [Path.segments_append stem (by simpa using hext), withExtension]

variable {files : ProjectFiles} {name : String}

theorem firstEndingIn_answers (files : ProjectFiles) (tail : String) :
    files.Answers [EndsIn (Path.segments tail)] (files.firstEndingIn tail) :=
  ProjectFiles.answers_find? fun path => endsInSegments_iff path tail

theorem firstInDirEndingIn_answers (dir : String) {ext : String} (hext : '.' ∉ ext.toList) :
    files.Answers [LiesIn (Path.segments dir) ext] (files.firstInDirEndingIn dir [ext]) := by
  refine ProjectFiles.answers_find? fun path => ?_
  rw [LiesIn, Bool.and_eq_true, endsInSegments_iff, Path.hasExtension_singleton hext]

/-! ## Java and Kotlin -/

/-- The files of a type, and of the type around it. -/
theorem jvmTypes_answers {path : String} (hpath : path ≠ "") :
    files.Answers
      (["java", "kt", "kts"].map (fun ext => EndsIn (withExtension (Path.segments path) ext)) ++
        (if Path.ofSegments (Path.segments path).dropLast = "" then []
          else ["java", "kt", "kts"].map fun ext =>
            EndsIn (withExtension (Path.segments path).dropLast ext)))
      ((([path, Path.parent path].filter (· ≠ "")).flatMap fun stem =>
        jvmExtensions.map fun ext => stem ++ "." ++ ext).findSome? files.firstEndingIn) := by
  have htypes : ∀ stem, (jvmExtensions.map fun ext => stem ++ "." ++ ext).flatMap
      (fun tail => [EndsIn (Path.segments tail)]) =
      ["java", "kt", "kts"].map fun ext => EndsIn (withExtension (Path.segments stem) ext) := by
    intro stem
    simp only [jvmExtensions, List.map_cons, List.map_nil, List.flatMap_cons, List.flatMap_nil,
      List.singleton_append, String.append_assoc]
    rw [segments_withExtension stem (by decide), segments_withExtension stem (by decide),
      segments_withExtension stem (by decide)]
  have hstems := ProjectFiles.answers_findSome? (firstEndingIn_answers files)
    (([path, Path.parent path].filter (· ≠ "")).flatMap fun stem =>
      jvmExtensions.map fun ext => stem ++ "." ++ ext)
  rw [List.flatMap_assoc] at hstems
  simp only [htypes] at hstems
  by_cases hparent : Path.parent path = ""
  · rw [← Path.parent, if_pos hparent]
    simpa [hpath, hparent] using hstems
  · have hdirs : (Path.segments path).dropLast ≠ [] := by
      intro hnil
      exact hparent (by rw [Path.parent, hnil]; rfl)
    rw [← Path.parent, if_neg hparent, ← Path.segments_parent hdirs]
    simpa [hpath, hparent] using hstems

theorem jvm_answers (hname : name ≠ "") (hstar : Text.endsWith name ".*" = false) :
    files.Answers (jvmQuestions (dottedSegments name)) (jvm name files) := by
  have hpath : Text.replaceChar '.' '/' name ≠ "" := by
    intro hempty
    have hchars := congrArg String.toList hempty
    exact hname (by simpa [Text.replaceChar] using hchars)
  simp only [jvm, Text.beforeTail?_toList_eq_none hstar, dottedSegments]
  generalize Text.replaceChar '.' '/' name = path at hpath ⊢
  refine (jvmTypes_answers hpath).append ?_
  by_cases hslash : Text.contains (Path.parent path) "/" = true
  · have hlong := (Path.slash_mem_parent_iff path).1 (Text.contains_slash.1 hslash)
    have hdirs : (Path.segments path).dropLast ≠ [] := by
      rw [← List.length_pos_iff, List.length_dropLast]
      omega
    rw [if_pos hlong, if_pos hslash, ← Path.segments_parent hdirs]
    exact firstInDirEndingIn_answers _ (by decide)
  · have hshort : ¬ 3 ≤ (Path.segments path).length := by
      rwa [← Path.slash_mem_parent_iff, ← Text.contains_slash]
    rw [if_neg hshort, if_neg hslash]
    exact .nothing

/-! ## C# -/

theorem cSharp_answers (name : String) (files : ProjectFiles) :
    files.Answers (cSharpQuestions (dottedSegments name)) (cSharp name files) := by
  have hask : ∀ candidate, files.Answers
      [EndsIn (withExtension (Path.segments candidate) "cs"), LiesIn (Path.segments candidate) "cs"]
      ((files.firstEndingIn (candidate ++ ".cs")).or
        (files.firstInDirEndingIn candidate ["cs"])) := by
    intro candidate
    rw [← segments_withExtension candidate (by decide)]
    exact (firstEndingIn_answers files _).append (firstInDirEndingIn_answers _ (by decide))
  rw [dottedSegments, cSharp]
  rcases Path.segments_cases (Text.replaceChar '.' '/' name) with
    ⟨hslash, hsegs⟩ | ⟨first, rest, hpath, hfirst, hsegs⟩
  · have hlist := ProjectFiles.answers_findSome? hask [Text.replaceChar '.' '/' name]
    rw [Text.cutFirst?_eq_none hslash, cSharpQuestions, if_neg (by simp [hsegs])]
    simpa using hlist
  · have hlist := ProjectFiles.answers_findSome? hask [Text.replaceChar '.' '/' name, rest]
    have hlong := Path.length_segments_pos rest
    rw [hpath, Text.cutFirst?_append hfirst, cSharpQuestions,
      if_pos (by rw [hsegs, List.length_cons]; omega)]
    simpa [hsegs] using hlist

/-! ## PHP -/

theorem phpNamespace_answers (name : String) (files : ProjectFiles) :
    files.Answers (phpQuestions (namespaceSegments name)) (phpNamespace name files) := by
  have hask : ∀ candidate, files.Answers
      [EndsIn (withExtension (Path.segments candidate) "php")]
      (files.firstEndingIn (candidate ++ ".php")) := by
    intro candidate
    rw [← segments_withExtension candidate (by decide)]
    exact firstEndingIn_answers files _
  simp only [namespaceSegments, phpNamespace]
  generalize Text.replaceChar '\\' '/' (String.ofList (name.toList.dropWhile (· = '\\'))) = path
  rcases Path.segments_cases path with ⟨hslash, hsegs⟩ | ⟨first, rest, hpath, hfirst, hsegs⟩
  · have hlist := ProjectFiles.answers_findSome? hask [path]
    rw [Text.cutFirst?_eq_none hslash, phpQuestions, if_neg (by simp [hsegs])]
    simpa using hlist
  · have hlist := ProjectFiles.answers_findSome? hask [path, Text.lowered first ++ "/" ++ rest, rest]
    have hlong := Path.length_segments_pos rest
    have hlowered : Path.segments (Text.lowered first ++ "/" ++ rest) =
        (Path.segments path).modifyHead Text.lowered := by
      rw [Path.segments_append_slash, Path.segments_of_not_mem (Text.slash_not_mem_lowered hfirst),
        hsegs]
      rfl
    rw [hpath, Text.cutFirst?_append hfirst, phpQuestions,
      if_pos (by rw [hsegs, List.length_cons]; omega), ← hlowered]
    simpa [hsegs] using hlist

/-! ## C and C++ -/

theorem native_eq_some_iff {importer path : String}
    (hmissing : ∀ candidate ∈ nativeCandidates name importer, candidate ∉ files.paths) :
    native name importer files = some path ↔
      files.IsOnly (EndsIn (Path.segments (String.ofList (dropHere name.toList)))) path := by
  have hnone : files.firstExisting (nativeCandidates name importer) = none := by
    rw [ProjectFiles.firstExisting, List.find?_eq_none]
    intro candidate hcandidate hfound
    exact hmissing candidate hcandidate (List.contains_iff_mem.1 hfound)
  rw [native, hnone, Option.none_or, ProjectFiles.onlyEndingIn_eq_some_iff,
    ProjectFiles.filter_eq_singleton_iff_isOnly fun path => endsInSegments_iff path _]

end Resolve

open Resolve in
/-- **Namespaces are matched by whole segments.**  The text of a path ends in that of another one,
behind a slash, exactly if its segments end in those of the other.  In Java and Kotlin, for a name
that is not empty and not that of all types of a package, in C#, and in PHP for a name that is not
that of a file, an import has an answer exactly if it is the answer to the questions for the
segments of the name, asked in turn.  In C and C++, a header that lies neither beside the importing
file nor in one of the usual directories is found exactly if a single file of the project ends in
the segments of its name. -/
theorem resolveImport_namespaces (files : ProjectFiles) (name importer : String) :
    (∀ path tail : String, (path = tail ∨ ∃ front, path = front ++ "/" ++ tail) ↔
      Path.segments tail <:+ Path.segments path) ∧
    (name ≠ "" → Text.endsWith name ".*" = false → ∀ l, l = .java ∨ l = .kotlin → ∀ answer,
      (resolveImport l name importer files = answer ↔
        files.Answers (jvmQuestions (dottedSegments name)) answer)) ∧
    (∀ answer, resolveImport .cSharp name importer files = answer ↔
      files.Answers (cSharpQuestions (dottedSegments name)) answer) ∧
    ('/' ∉ name.toList → Text.endsWith name ".php" = false → ∀ answer,
      (resolveImport .php name importer files = answer ↔
        files.Answers (phpQuestions (namespaceSegments name)) answer)) ∧
    ((∀ candidate ∈ nativeCandidates name importer, candidate ∉ files.paths) →
      ∀ l, l = .c ∨ l = .cpp → ∀ path,
      (resolveImport l name importer files = some path ↔
        files.IsOnly (EndsIn (Path.segments (String.ofList (dropHere name.toList)))) path)) := by
  refine ⟨Path.eq_or_endsWith_iff, ?_, ?_, ?_, ?_⟩
  · intro hname hstar l hl answer
    have hfamily : ImportFamily.of? l = some .jvm := by
      rcases hl with rfl | rfl <;> decide
    rw [resolveImport_of_family hfamily]
    exact (jvm_answers hname hstar).eq_iff
  · intro answer
    rw [resolveImport_of_family (show ImportFamily.of? .cSharp = some .cSharp by decide)]
    exact (cSharp_answers name files).eq_iff
  · intro hslash hending answer
    have hnamespace : php name importer files = phpNamespace name files := by
      have hcontains : Text.contains name "/" = false := by
        rwa [← Bool.not_eq_true, Text.contains_slash]
      simp [php, hending, hcontains]
    rw [resolveImport_of_family (show ImportFamily.of? .php = some .php by decide),
      ImportFamily.resolve, hnamespace]
    exact (phpNamespace_answers name files).eq_iff
  · intro hmissing l hl path
    have hfamily : ImportFamily.of? l = some .native := by
      rcases hl with rfl | rfl <;> decide
    rw [resolveImport_of_family hfamily]
    exact native_eq_some_iff hmissing

/-- A project in which other files end in the same letters, but not in the same segments. -/
def lookalikeEndings : ProjectFiles where
  paths :=
    ["lib/xcom/shop/Cart.java", "src/com/shop/Cart.kt", "src/com/shop/Cart.java",
     "old/MyShop/Models/Order.cs", "Shop/Models/Order.cs", "app/Models/User.php",
     "third/mylist.h", "third/list.h"]
  goModule := none

open Resolve in
/-- A member of a type, a namespace below the name of the project, a class below a directory in
small letters, and a header in a directory that is not searched. -/
theorem resolveImport_namespaces_lookalikeEndings :
    (Text.endsWith "com.shop.Cart.total" ".*" = false ∧
      resolveImport .kotlin "com.shop.Cart.total" "src/Main.kt" lookalikeEndings =
        some "src/com/shop/Cart.java" ∧
      lookalikeEndings.Answers (jvmQuestions ["com", "shop", "Cart", "total"])
        (some "src/com/shop/Cart.java")) ∧
    (resolveImport .cSharp "Acme.Shop.Models" "Main.cs" lookalikeEndings =
        some "Shop/Models/Order.cs" ∧
      lookalikeEndings.Answers (cSharpQuestions ["Acme", "Shop", "Models"])
        (some "Shop/Models/Order.cs")) ∧
    ('/' ∉ "\\App\\Models\\User".toList ∧
      resolveImport .php "\\App\\Models\\User" "index.php" lookalikeEndings =
        some "app/Models/User.php" ∧
      lookalikeEndings.Answers (phpQuestions ["App", "Models", "User"])
        (some "app/Models/User.php")) ∧
    ((∀ candidate ∈ nativeCandidates "./list.h" "src/main.c",
        candidate ∉ lookalikeEndings.paths) ∧
      resolveImport .c "./list.h" "src/main.c" lookalikeEndings = some "third/list.h" ∧
      lookalikeEndings.IsOnly (EndsIn ["list.h"]) "third/list.h") := by
  obtain ⟨-, hjvm, -, -, -⟩ :=
    resolveImport_namespaces lookalikeEndings "com.shop.Cart.total" "src/Main.kt"
  obtain ⟨-, -, hcSharp, -, -⟩ :=
    resolveImport_namespaces lookalikeEndings "Acme.Shop.Models" "Main.cs"
  obtain ⟨-, -, -, hphp, -⟩ :=
    resolveImport_namespaces lookalikeEndings "\\App\\Models\\User" "index.php"
  obtain ⟨-, -, -, -, hnative⟩ := resolveImport_namespaces lookalikeEndings "./list.h" "src/main.c"
  rw [show dottedSegments "com.shop.Cart.total" = ["com", "shop", "Cart", "total"] by
    decide +kernel] at hjvm
  rw [show dottedSegments "Acme.Shop.Models" = ["Acme", "Shop", "Models"] by
    decide +kernel] at hcSharp
  rw [show namespaceSegments "\\App\\Models\\User" = ["App", "Models", "User"] by
    decide +kernel] at hphp
  rw [show Path.segments (String.ofList (dropHere "./list.h".toList)) = ["list.h"] by
    decide +kernel] at hnative
  have htype : resolveImport .kotlin "com.shop.Cart.total" "src/Main.kt" lookalikeEndings =
      some "src/com/shop/Cart.java" := by decide +kernel
  have hdir : resolveImport .cSharp "Acme.Shop.Models" "Main.cs" lookalikeEndings =
      some "Shop/Models/Order.cs" := by decide +kernel
  have hclass : resolveImport .php "\\App\\Models\\User" "index.php" lookalikeEndings =
      some "app/Models/User.php" := by decide +kernel
  have hheader : resolveImport .c "./list.h" "src/main.c" lookalikeEndings =
      some "third/list.h" := by decide +kernel
  have hmissing : ∀ candidate ∈ nativeCandidates "./list.h" "src/main.c",
      candidate ∉ lookalikeEndings.paths := by decide +kernel
  have hstar : Text.endsWith "com.shop.Cart.total" ".*" = false := by decide +kernel
  refine ⟨⟨hstar, htype, ?_⟩, ⟨hdir, ?_⟩, ⟨by decide, hclass, ?_⟩, hmissing, hheader, ?_⟩
  · exact (hjvm (by decide) hstar _ (.inr rfl) _).1 htype
  · exact (hcSharp _).1 hdir
  · exact (hphp (by decide) (by decide +kernel) _).1 hclass
  · exact (hnative hmissing _ (.inl rfl) _).1 hheader

end SourceAtlas
