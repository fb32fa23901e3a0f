import Mathlib
import SourceAtlas.Model.Project
import SourceAtlas.Proofs.Files.Walk
import SourceAtlas.Proofs.Graph.Reachability
import SourceAtlas.Proofs.Text.Cut

/-!
# Totals over a project

Whatever is counted or collected over the files of a project is counted or collected file by file.
So it can be found for two parts of the project and put together, and the order of the files does
not matter.

* `total_append`, `total_perm` — totals; `sum_total_filter` — a total is the sum of the totals of
  the single languages; `toNat_wordTotal` — a total that fits in 64 bits can be added up in 64 bits.
* `tally` — the files and lines of each language, counted file by file; they are the numbers in the
  breakdown (`breakdownAt_eq_tally`).
* `sortedSet_congr` — a sorted set is determined by its members.
* `IsSumOf`, `SameAggregates` — what is known of the aggregates of a project in two parts, and of
  two projects with the same files.
* `assemble_aggregates` — all of this for the model that is assembled from a list of files.
-/

namespace SourceAtlas

/-! ## Sorted sets -/

/-- Sorting a set keeps its members. -/
theorem mem_sortedSet {s : String} {ss : List String} : s ∈ sortedSet ss ↔ s ∈ ss := by
  simp [sortedSet]

theorem sortedSet_increasing (ss : List String) : (sortedSet ss).Pairwise (· < ·) :=
  mergeSort_key_lt (fun s => s) (nodup_eraseDups ss)

theorem nodup_sortedSet (ss : List String) : (sortedSet ss).Nodup := by
  refine (sortedSet_increasing ss).imp ?_
  rintro s _ hlt rfl
  exact String.lt_irrefl s hlt

/-- A sorted set is determined by its members. -/
theorem sortedSet_congr {ss ss' : List String} (h : ∀ s, s ∈ ss ↔ s ∈ ss') :
    sortedSet ss = sortedSet ss' := by
  have hperm : (sortedSet ss).Perm (sortedSet ss') := by
    rw [List.perm_ext_iff_of_nodup (nodup_sortedSet ss) (nodup_sortedSet ss')]
    intro s
    rw [mem_sortedSet, mem_sortedSet, h]
  refine hperm.eq_of_pairwise ?_ (sortedSet_increasing ss) (sortedSet_increasing ss')
  intro a b _ _ hab hba
  exact absurd (String.lt_trans hab hba) (String.lt_irrefl a)

namespace ProjectModel

variable {measure : SourceFile → Nat} {files files' a b : List SourceFile} {l : Language}

/-! ## Totals -/

theorem total_eq_sum (measure : SourceFile → Nat) (files : List SourceFile) :
    total measure files = (files.map measure).sum := by
  induction files with
  | nil => rfl
  | cons f files ih => rw [total, ih, List.map_cons, List.sum_cons]

/-- Totals of two lists of files add up, … -/
theorem total_append (measure : SourceFile → Nat) (a b : List SourceFile) :
    total measure (a ++ b) = total measure a + total measure b := by
  simp [total_eq_sum]

/-- … and do not depend on the order of the files. -/
theorem total_perm (h : files'.Perm files) : total measure files' = total measure files := by
  rw [total_eq_sum, total_eq_sum]
  exact (h.map measure).sum_eq

theorem total_one (files : List SourceFile) : total (fun _ => 1) files = files.length := by
  simp [total_eq_sum]

/-- A file counts in its own language only. -/
theorem sum_ite_language {ls : List Language} (hnodup : ls.Nodup) (hmem : l ∈ ls) (n : Nat) :
    (ls.map fun l' => if l = l' then n else 0).sum = n := by
  induction hnodup with
  | nil => cases hmem
  | @cons l' ls hhead _ ih =>
      rcases List.mem_cons.1 hmem with rfl | hmem
      · have hothers : ∀ l' ∈ ls, (if l = l' then n else 0) = 0 :=
          fun l' hl' => if_neg (hhead l' hl')
        simp [List.map_congr_left hothers]
      · have hne : l ≠ l' := (hhead l hmem).symm
        simpa [hne] using ih hmem

/-- **A total is the sum of the totals of the languages.** -/
theorem sum_total_filter {ls : List Language} (hnodup : ls.Nodup) :
    (∀ f ∈ files, f.language ∈ ls) →
      (ls.map fun l => total measure (files.filter (·.language = l))).sum =
        total measure files := by
  induction files with
  | nil =>
      intro _
      simp [total]
  | cons f files ih =>
      intro hmem
      have hstep : ∀ l, total measure ((f :: files).filter (·.language = l)) =
          (if f.language = l then measure f else 0) +
            total measure (files.filter (·.language = l)) := by
        intro l
        by_cases hl : f.language = l <;> simp [hl, total]
      simp only [hstep]
      rw [List.sum_map_add, sum_ite_language hnodup (hmem f List.mem_cons_self),
        ih fun f' hf' => hmem f' (List.mem_cons_of_mem _ hf'), total]

/-- A total that is added up in words of 64 bits, one file after the other. -/
def wordTotal (measure : SourceFile → Nat) (files : List SourceFile) : UInt64 :=
  files.foldl (fun sum f => sum + UInt64.ofNat (measure f)) 0

/-- Adding up in words is adding up as long as the sum fits into one. -/
theorem foldl_words (files : List SourceFile) : ∀ sum : UInt64,
    sum.toNat + total measure files < 2 ^ 64 →
      (files.foldl (fun sum f => sum + UInt64.ofNat (measure f)) sum).toNat =
        sum.toNat + total measure files := by
  induction files with
  | nil => simp [total]
  | cons f files ih =>
      intro sum hfits
      rw [total] at hfits ⊢
      have hsum : (sum + UInt64.ofNat (measure f)).toNat = sum.toNat + measure f := by
        rw [UInt64.toNat_add, UInt64.toNat_ofNat']
        omega
      rw [List.foldl_cons, ih _ (by omega), hsum]
      omega

/-- Where the total fits, no sum on the way to it overflows. -/
theorem toNat_wordTotal (h : total measure files < 2 ^ 64) :
    (wordTotal measure files).toNat = total measure files := by
  have hwords := foldl_words files (0 : UInt64) (by simpa using h)
  simpa [wordTotal] using hwords

/-! ## Languages -/

/-- Counts one more file in the numbers of files and lines by language. -/
def countFile (counts : Language → Nat × Nat) (f : SourceFile) : Language → Nat × Nat :=
  Function.update counts f.language (counts f.language + (1, f.lineCount))

/-- The numbers of files and lines by language, counted file by file. -/
def tally (files : List SourceFile) : Language → Nat × Nat := files.foldl countFile 0

theorem foldl_countFile (files : List SourceFile) : ∀ counts : Language → Nat × Nat,
    files.foldl countFile counts l = counts l + ((files.filter (·.language = l)).length,
      total (·.lineCount) (files.filter (·.language = l))) := by
  induction files with
  | nil => simp [total]
  | cons f files ih =>
      intro counts
      rw [List.foldl_cons, ih]
      by_cases hl : f.language = l
      · subst hl
        simp [countFile, total, add_assoc, Nat.add_comm]
      · simp [countFile, hl, Function.update_of_ne (Ne.symm hl)]

/-- The numbers of a language are the totals over its files. -/
theorem tally_eq (files : List SourceFile) (l : Language) :
    tally files l = ((files.filter (·.language = l)).length,
      total (·.lineCount) (files.filter (·.language = l))) := by
  rw [tally, foldl_countFile]
  simp

/-- They add up as totals do. -/
theorem tally_append (a b : List SourceFile) (l : Language) :
    tally (a ++ b) l = tally a l + tally b l := by
  simp [tally_eq, total_append]

/-- The numbers of a language in the breakdown; a language that is not in it has none. -/
def breakdownAt (m : ProjectModel) (l : Language) : Nat × Nat :=
  ((m.languageBreakdown.find? (·.1 = l)).map (·.2)).getD 0

/-- The languages that occur. -/
def occurring (files : List SourceFile) : List Language :=
  Language.all.filter fun l => files.any (·.language = l)

theorem mem_occurring : l ∈ occurring files ↔ ∃ f ∈ files, f.language = l := by
  have hall : ∀ l : Language, l ∈ Language.all := by
    intro l
    cases l <;> decide
  simp [occurring, hall l]

theorem nodup_occurring (files : List SourceFile) : (occurring files).Nodup := by
  have hnodup : Language.all.Nodup := by decide
  exact hnodup.filter _

/-- The breakdown lists the languages that occur. -/
theorem languageBreakdown_eq (m : ProjectModel) :
    m.languageBreakdown = (occurring m.files).map fun l => (l, tally m.files l) := by
  unfold languageBreakdown
  simp only [tally_eq]
  rfl

/-- **The breakdown holds what is counted file by file.** -/
theorem breakdownAt_eq_tally (m : ProjectModel) (l : Language) :
    m.breakdownAt l = tally m.files l := by
  unfold breakdownAt
  rw [languageBreakdown_eq, List.find?_map]
  by_cases hl : l ∈ occurring m.files
  · have hfind : (occurring m.files).find? (fun l' => l' = l) = some l := by
      rw [List.find?_eq_some_iff_append]
      obtain ⟨before, after, hsplit, hbefore⟩ := List.eq_append_cons_of_mem hl
      refine ⟨by simp, before, after, hsplit, ?_⟩
      intro l' hl'
      simpa using ne_of_mem_of_not_mem hl' hbefore
    simp [hfind]
  · have hfind : (occurring m.files).find? (fun l' => l' = l) = none := by
      rw [List.find?_eq_none]
      intro l' hl'
      simpa using ne_of_mem_of_not_mem hl' hl
    have hnone : m.files.filter (·.language = l) = [] := by
      rw [List.filter_eq_nil_iff]
      intro f hf
      simpa using fun h => hl (mem_occurring.2 ⟨f, hf, h⟩)
    simp only [Function.comp_def, hfind, tally_eq, hnone, total]
    rfl

theorem sum_files_breakdown (m : ProjectModel) :
    (m.languageBreakdown.map (·.2.1)).sum = m.files.length := by
  rw [languageBreakdown_eq, ← total_one, ← sum_total_filter (nodup_occurring m.files)]
  · simp [tally_eq, total_one, Function.comp_def]
  · exact fun f hf => mem_occurring.2 ⟨f, hf, rfl⟩

theorem sum_lines_breakdown (m : ProjectModel) :
    (m.languageBreakdown.map (·.2.2)).sum = total (·.lineCount) m.files := by
  rw [languageBreakdown_eq, ← sum_total_filter (nodup_occurring m.files)]
  · simp [tally_eq, Function.comp_def]
  · exact fun f hf => mem_occurring.2 ⟨f, hf, rfl⟩

theorem tally_perm (h : files'.Perm files) (l : Language) : tally files' l = tally files l := by
  have hfilter : (files'.filter (·.language = l)).Perm (files.filter (·.language = l)) := h.filter _
  rw [tally_eq, tally_eq, hfilter.length_eq, total_perm hfilter]

theorem occurring_perm (h : files'.Perm files) : occurring files' = occurring files := by
  unfold occurring
  congr 1
  funext l
  rw [Bool.eq_iff_iff, List.any_eq_true, List.any_eq_true]
  simp only [h.mem_iff]

/-! ## What is collected -/

/-- A pattern shows in a model if it shows in one of its files. -/
theorem mem_designPatterns {m : ProjectModel} {p : DesignPattern} :
    p ∈ m.designPatterns ↔
      ∃ f ∈ m.files, ∃ name ∈ f.classes, Text.contains name p.marker = true := by
  have hall : p ∈ DesignPattern.all := by cases p <;> decide
  unfold designPatterns DesignPattern.detect
  rw [List.mem_filter, List.any_flatMap]
  simp [hall]

theorem designPatterns_perm {m m' : ProjectModel} (h : m'.files.Perm m.files) :
    m'.designPatterns = m.designPatterns := by
  unfold designPatterns DesignPattern.detect
  congr 1
  funext p
  rw [Bool.eq_iff_iff, List.any_eq_true, List.any_eq_true]
  simp only [List.mem_flatMap, h.mem_iff]

/-! ## Models -/

/-- A model that was put together from the records of some files. -/
def AssembledFrom (m : ProjectModel) (files : List SourceFile) : Prop :=
  ∃ root graph skipped, m = assemble root files graph skipped

section

variable {m m' ma mb : ProjectModel}

/-- The records of a model are those that it was put together from. -/
theorem AssembledFrom.files_eq (h : m.AssembledFrom files) : m.files = files := by
  obtain ⟨root, graph, skipped, rfl⟩ := h
  rfl

theorem AssembledFrom.totalLines_eq (h : m.AssembledFrom files) :
    m.totalLines = total (·.lineCount) m.files := by
  obtain ⟨root, graph, skipped, rfl⟩ := h
  rfl

theorem AssembledFrom.mem_buildFiles (h : m.AssembledFrom files) {path : String} :
    path ∈ m.buildFiles ↔ ∃ f ∈ m.files, f.isBuildFile = true ∧ f.path = path := by
  obtain ⟨root, graph, skipped, rfl⟩ := h
  simp [assemble, mem_sortedSet, and_assoc]

theorem AssembledFrom.buildFiles_increasing (h : m.AssembledFrom files) :
    m.buildFiles.Pairwise (· < ·) := by
  obtain ⟨root, graph, skipped, rfl⟩ := h
  exact sortedSet_increasing _

/-- What the aggregates of a model are. -/
structure Counts (m : ProjectModel) (files : List SourceFile) : Prop where
  totalLines : m.totalLines = (files.map (·.lineCount)).sum
  classCount : m.classCount = (files.map (·.classes.length)).sum
  functionCount : m.functionCount = (files.map (·.functions.length)).sum
  topLevelFunctionCount : m.topLevelFunctionCount = (files.map (·.topLevelFunctions)).sum
  /-- The lines of all languages are the lines of the project. -/
  breakdownLines : (m.languageBreakdown.map (·.2.2)).sum = m.totalLines
  /-- Every file has one language. -/
  breakdownFiles : (m.languageBreakdown.map (·.2.1)).sum = files.length
  /-- The numbers of a language are those that are counted file by file. -/
  breakdown : ∀ l, m.breakdownAt l = tally files l
  /-- The build files are the files that are flagged as such. -/
  buildFiles : ∀ path, path ∈ m.buildFiles ↔ ∃ f ∈ files, f.isBuildFile = true ∧ f.path = path
  /-- None of them is listed twice. -/
  buildFilesIncreasing : m.buildFiles.Pairwise (· < ·)
  architecture : m.architecture = Architecture.classify m.classCount m.topLevelFunctionCount

/-- **The aggregates of a model are those of its files.** -/
theorem AssembledFrom.counts (h : m.AssembledFrom files) : m.Counts files := by
  have hfiles := h.files_eq
  constructor
  case totalLines => rw [h.totalLines_eq, hfiles, total_eq_sum]
  case classCount => rw [classCount, hfiles, total_eq_sum]
  case functionCount => rw [functionCount, hfiles, total_eq_sum]
  case topLevelFunctionCount => rw [topLevelFunctionCount, hfiles, total_eq_sum]
  case breakdownLines => rw [sum_lines_breakdown, h.totalLines_eq]
  case breakdownFiles => rw [sum_files_breakdown, hfiles]
  case breakdown => exact fun l => by rw [breakdownAt_eq_tally, hfiles]
  case buildFiles => exact fun path => by rw [h.mem_buildFiles, hfiles]
  case buildFilesIncreasing => exact h.buildFiles_increasing
  case architecture =>
    obtain ⟨root, graph, skipped, rfl⟩ := h
    rfl

/-- A model whose aggregates are those of two others, put together. -/
structure IsSumOf (m ma mb : ProjectModel) : Prop where
  totalLines : m.totalLines = ma.totalLines + mb.totalLines
  classCount : m.classCount = ma.classCount + mb.classCount
  functionCount : m.functionCount = ma.functionCount + mb.functionCount
  topLevelFunctionCount :
    m.topLevelFunctionCount = ma.topLevelFunctionCount + mb.topLevelFunctionCount
  breakdown : ∀ l, m.breakdownAt l = ma.breakdownAt l + mb.breakdownAt l
  languages : ∀ l, l ∈ m.languageBreakdown.map (·.1) ↔
    l ∈ ma.languageBreakdown.map (·.1) ∨ l ∈ mb.languageBreakdown.map (·.1)
  designPatterns : ∀ p, p ∈ m.designPatterns ↔ p ∈ ma.designPatterns ∨ p ∈ mb.designPatterns
  buildFiles : ∀ path, path ∈ m.buildFiles ↔ path ∈ ma.buildFiles ∨ path ∈ mb.buildFiles

theorem mem_languages : l ∈ m.languageBreakdown.map (·.1) ↔ ∃ f ∈ m.files, f.language = l := by
  rw [languageBreakdown_eq, ← mem_occurring]
  simp

/-- **The aggregates of a model are the sums and unions of those of its parts.** -/
theorem AssembledFrom.isSumOf (h : m.AssembledFrom files) (ha : ma.AssembledFrom a)
    (hb : mb.AssembledFrom b) (hsplit : files.Perm (a ++ b)) : m.IsSumOf ma mb := by
  have hfiles : m.files.Perm (ma.files ++ mb.files) := by
    rw [h.files_eq, ha.files_eq, hb.files_eq]
    exact hsplit
  have hmem : ∀ f, f ∈ m.files ↔ f ∈ ma.files ∨ f ∈ mb.files :=
    fun f => hfiles.mem_iff.trans List.mem_append
  have htotal : ∀ measure, total measure m.files =
      total measure ma.files + total measure mb.files := by
    intro measure
    rw [total_perm hfiles, total_append]
  constructor
  case totalLines => rw [h.totalLines_eq, ha.totalLines_eq, hb.totalLines_eq, htotal]
  case classCount => exact htotal _
  case functionCount => exact htotal _
  case topLevelFunctionCount => exact htotal _
  case breakdown =>
    intro l
    rw [breakdownAt_eq_tally, breakdownAt_eq_tally, breakdownAt_eq_tally, tally_perm hfiles,
      tally_append]
  case languages =>
    intro l
    simp only [mem_languages, hmem, or_and_right, exists_or]
  case designPatterns =>
    intro p
    simp only [mem_designPatterns, hmem, or_and_right, exists_or]
  case buildFiles =>
    intro path
    rw [h.mem_buildFiles, ha.mem_buildFiles, hb.mem_buildFiles]
    simp only [hmem, or_and_right, exists_or]

/-- Two models with the same aggregates. -/
structure SameAggregates (m' m : ProjectModel) : Prop where
  totalLines : m'.totalLines = m.totalLines
  classCount : m'.classCount = m.classCount
  functionCount : m'.functionCount = m.functionCount
  topLevelFunctionCount : m'.topLevelFunctionCount = m.topLevelFunctionCount
  languageBreakdown : m'.languageBreakdown = m.languageBreakdown
  designPatterns : m'.designPatterns = m.designPatterns
  buildFiles : m'.buildFiles = m.buildFiles
  architecture : m'.architecture = m.architecture

/-- **The order of the files has no bearing on the aggregates.** -/
theorem AssembledFrom.sameAggregates (h : m.AssembledFrom files) (h' : m'.AssembledFrom files')
    (hperm : files'.Perm files) : SameAggregates m' m := by
  have hfiles : m'.files.Perm m.files := by
    rw [h.files_eq, h'.files_eq]
    exact hperm
  have hclasses : m'.classCount = m.classCount := total_perm hfiles
  have htopLevel : m'.topLevelFunctionCount = m.topLevelFunctionCount := total_perm hfiles
  constructor
  case totalLines => rw [h.totalLines_eq, h'.totalLines_eq, total_perm hfiles]
  case classCount => exact hclasses
  case functionCount => exact total_perm hfiles
  case topLevelFunctionCount => exact htopLevel
  case languageBreakdown =>
    rw [languageBreakdown_eq, languageBreakdown_eq, occurring_perm hfiles]
    exact List.map_congr_left fun l _ => by rw [tally_perm hfiles]
  case designPatterns => exact designPatterns_perm hfiles
  case buildFiles =>
    obtain ⟨root, graph, skipped, rfl⟩ := h
    obtain ⟨root', graph', skipped', rfl⟩ := h'
    refine sortedSet_congr fun path => ?_
    exact ((hperm.filter _).map _).mem_iff
  case architecture => rw [h.counts.architecture, h'.counts.architecture, hclasses, htopLevel]

/-- **The aggregates of a project are found file by file.**  They are the sums over the files, be
they taken at once or language by language; a total that fits in 64 bits is the same when it is
added up in words of 64 bits.  For a project in two parts, however the files are divided, they are
the sums and unions of those of the parts, and the order of the files has no bearing on them. -/
theorem assemble_aggregates (files : List SourceFile) (m : ProjectModel)
    (h : m.AssembledFrom files) :
    m.Counts files ∧
    (∀ measure : SourceFile → Nat, total measure files < 2 ^ 64 →
      (wordTotal measure files).toNat = total measure files) ∧
    (∀ a b ma mb, files.Perm (a ++ b) → ma.AssembledFrom a → mb.AssembledFrom b →
      m.IsSumOf ma mb) ∧
    (∀ files' m', files'.Perm files → m'.AssembledFrom files' → SameAggregates m' m) := by
  refine ⟨h.counts, fun measure hfits => toNat_wordTotal hfits, ?_, ?_⟩
  · exact fun a b ma mb hsplit ha hb => h.isSumOf ha hb hsplit
  · exact fun files' m' hperm h' => h.sameAggregates h' hperm

/-- Two sources with a manifest between them. -/
def threeFiles : List SourceFile :=
  [⟨"app.py", .python, 20, ["main"], 1, ["UserService"], [], Purposes.ofList [.general], false⟩,
   ⟨"pyproject.toml", .unknown, 5, [], 0, [], [], Purposes.ofList [.general], true⟩,
   ⟨"users.py", .python, 10, ["find", "save"], 0, ["UserRepository"], [],
    Purposes.ofList [.persistence], false⟩]

/-- A model of files whose imports are not looked at. -/
def edgeless (files : List SourceFile) : ProjectModel := assemble "project" files ⟨[], []⟩ []

theorem assembledFrom_edgeless (files : List SourceFile) : (edgeless files).AssembledFrom files :=
  ⟨_, _, _, rfl⟩

/-- The manifest apart from the sources, and all files from the last to the first. -/
theorem assemble_aggregates_threeFiles :
    (edgeless threeFiles).languageBreakdown = [(.python, 2, 30), (.unknown, 1, 5)] ∧
    (edgeless threeFiles).totalLines = 35 ∧
    (wordTotal (·.lineCount) threeFiles).toNat = 35 ∧
    (edgeless threeFiles).IsSumOf (edgeless (threeFiles.filter (·.isBuildFile)))
      (edgeless (threeFiles.filter (!·.isBuildFile))) ∧
    (edgeless threeFiles.reverse).designPatterns = [.repository, .serviceLayer] := by
  obtain ⟨hcounts, hwords, hsum, hsame⟩ :=
    assemble_aggregates threeFiles (edgeless threeFiles) (assembledFrom_edgeless threeFiles)
  refine ⟨by decide +kernel, ?_, ?_, ?_, ?_⟩
  · rw [hcounts.totalLines]
    decide
  · rw [hwords (·.lineCount) (by decide)]
    decide
  · refine hsum _ _ _ _ ?_ (assembledFrom_edgeless _) (assembledFrom_edgeless _)
    exact (List.filter_append_perm (·.isBuildFile) threeFiles).symm
  · rw [(hsame _ _ threeFiles.reverse_perm (assembledFrom_edgeless _)).designPatterns]
    decide +kernel

end

end ProjectModel
end SourceAtlas
