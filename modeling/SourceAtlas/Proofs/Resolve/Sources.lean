import Mathlib.Data.List.DropRight
import SourceAtlas.Proofs.Resolve.Crate
import SourceAtlas.Proofs.Text.Cut

/-!
# The sources of a crate

The sources of a crate lie in a directory named `src`, and a file belongs to the innermost such
directory on the way to it.  That directory is looked for by the letters `src/`, and these also
stand at the end of a directory with a longer name.  So the answer is that of the last directory
whose name *ends* in `src`: if it is named just so, its path, and otherwise none at all, even if
there is a directory named `src` above it.

* `innermostSources`, `belowSources` — the directory that is meant, and those below it.
* `cutAtLast?_directory` — the letters are found at the end of a directory or not at all.
* `splitSources_of_directories`, `splitSources_of_forall` — the answer for a path with and without a
  directory whose name ends in `src`.
* `cratePlace_sources` — the answer is the directory that is meant exactly if no directory below it
  has a name that ends in `src`, and a name that starts with `crate` is looked up below it.
* `cratePlace_sources_lookalike` — a file for which it is another one.
-/

namespace SourceAtlas

namespace Text

/-- The last place of a mark stays the last one behind more text. -/
theorem cutAtLast?_append {mark s before after : List Char}
    (h : cutAtLast? mark s = some (before, after)) (front : List Char) :
    cutAtLast? mark (front ++ s) = some (front ++ before, after) := by
  induction front with
  | nil => exact h
  | cons c front ih => rw [List.cons_append, cutAtLast?, ih, List.cons_append]

/-- A word and a slash stand at the front of a path only as its first directory. -/
theorem afterHead?_directory {word dir : List Char} (hword : '/' ∉ word) (hdir : '/' ∉ dir)
    (rest : List Char) :
    afterHead? (word ++ ['/']) (dir ++ '/' :: rest) = if word = dir then some rest else none := by
  split
  · rename_i heq
    rw [afterHead?_eq_some_iff, heq, List.append_assoc, List.singleton_append]
  · rename_i hne
    refine Option.eq_none_iff_forall_ne_some.2 fun more hmore => hne ?_
    have hcut := congrArg (cutFirst? '/') (afterHead?_eq_some_iff.1 hmore)
    rw [List.append_assoc, List.singleton_append, cutFirst?_append hdir, cutFirst?_append hword,
      Option.some_inj, Prod.mk.injEq] at hcut
    exact hcut.1.symm

theorem beforeTail?_cons (c : Char) (word dir : List Char) :
    beforeTail? word (c :: dir) =
      if word = c :: dir then some [] else (beforeTail? word dir).map (c :: ·) := by
  split
  · rename_i heq
    rw [beforeTail?_eq_some_iff, heq, List.nil_append]
  · rename_i hne
    refine Option.ext fun before => ?_
    rw [beforeTail?_eq_some_iff, Option.map_eq_some_iff]
    constructor
    · intro h
      cases before with
      | nil => exact absurd h.symm hne
      | cons b before =>
          rw [List.cons_append, List.cons.injEq] at h
          exact ⟨before, beforeTail?_eq_some_iff.2 h.2, by rw [h.1]⟩
    · rintro ⟨before, hbefore, rfl⟩
      rw [List.cons_append, ← beforeTail?_eq_some_iff.1 hbefore]

/-- A word and a slash stand at the end of a directory, unless they stand further behind. -/
theorem cutAtLast?_directory (word : List Char) {dir rest : List Char} (hword : '/' ∉ word)
    (hdir : '/' ∉ dir) (hrest : cutAtLast? (word ++ ['/']) rest = none) :
    cutAtLast? (word ++ ['/']) (dir ++ '/' :: rest) = (beforeTail? word dir).map (·, rest) := by
  induction dir with
  | nil =>
      rw [List.nil_append, cutAtLast?, hrest, ← List.nil_append ('/' :: rest),
        afterHead?_directory hword hdir]
      cases word <;> simp [beforeTail?]
  | cons c dir ih =>
      rw [List.cons_append, cutAtLast?, ih (by simp_all), ← List.cons_append,
        afterHead?_directory hword hdir, beforeTail?_cons]
      cases hstem : beforeTail? word dir with
      | none => by_cases heq : word = c :: dir <;> simp [heq]
      | some stem =>
          have hne : word ≠ c :: dir := by
            intro heq
            have hlength := congrArg List.length (beforeTail?_eq_some_iff.1 hstem)
            simp [heq] at hlength
            omega
          simp [hne]

end Text

/-- Before a segment of a path stands nothing, or something that ends in a slash. -/
theorem Path.exists_front (above : List String) :
    ∃ front : List Char, (front = [] ∨ front.getLast? = some '/') ∧ ∀ below, below ≠ [] →
      (ofSegments (above ++ below)).toList = front ++ (ofSegments below).toList := by
  by_cases habove : above = []
  · exact ⟨[], .inl rfl, fun below _ => by rw [habove]; rfl⟩
  · refine ⟨(ofSegments above ++ "/").toList, .inr ?_, fun below hbelow => ?_⟩
    · have hslash : "/".toList = ['/'] := rfl
      rw [String.toList_append, hslash, List.getLast?_concat]
    · rw [ofSegments_append habove hbelow, String.toList_append]

namespace Resolve

/-! ## The directory that is meant -/

/-- The directories on the way to a file, the outermost first. -/
def directories (path : String) : List String := (Path.segments path).dropLast

/-- The path of a file up to the innermost directory named `src`; the root if there is none. -/
def innermostSources (path : String) : String :=
  Path.ofSegments ((directories path).rdropWhile (· ≠ "src"))

/-- The directories below the innermost one named `src`; all of them if there is none. -/
def belowSources (path : String) : List String := (directories path).rtakeWhile (· ≠ "src")

variable {path stem : String} {above below : List String}

theorem exists_segments_eq (path : String) :
    ∃ own, Path.segments path = directories path ++ [own] :=
  ⟨_, (List.dropLast_concat_getLast (Path.segments_ne_nil path)).symm⟩

/-- Directories without one named `src` at the end of the way lie below the innermost one. -/
theorem sources_of_append (h : directories path = above ++ below) (hbelow : "src" ∉ below) :
    innermostSources path = Path.ofSegments (above.rdropWhile (· ≠ "src")) ∧
      belowSources path = above.rtakeWhile (· ≠ "src") ++ below := by
  have hnames : ∀ d ∈ below.reverse, decide (d ≠ "src") = true := by
    intro d hd
    simpa using ne_of_mem_of_not_mem (List.mem_reverse.1 hd) hbelow
  constructor
  · rw [innermostSources, h, List.rdropWhile, List.reverse_append,
      List.dropWhile_append_of_pos hnames, ← List.rdropWhile]
  · rw [belowSources, h, List.rtakeWhile, List.reverse_append,
      List.takeWhile_append_of_pos hnames, List.reverse_append, List.reverse_reverse,
      ← List.rtakeWhile]

theorem innermostSources_eq_empty_iff (path : String) :
    innermostSources path = "" ↔ "src" ∉ directories path := by
  constructor
  · intro hempty hmem
    have hne : (directories path).rdropWhile (· ≠ "src") ≠ [] := by
      intro hnil
      simpa using List.rdropWhile_eq_nil_iff.1 hnil "src" hmem
    have hlast : ((directories path).rdropWhile (· ≠ "src")).getLast hne = "src" := by
      simpa using List.rdropWhile_last_not _ _ hne
    obtain ⟨front, -, hjoin⟩ :=
      Path.exists_front ((directories path).rdropWhile (· ≠ "src")).dropLast
    have hconcat := List.dropLast_concat_getLast hne
    rw [hlast] at hconcat
    have hchars := hjoin ["src"] (by simp)
    rw [hconcat, ← innermostSources, hempty, Path.ofSegments_singleton] at hchars
    simp at hchars
  · intro h
    have hnone := sources_of_append (List.nil_append _).symm h
    rw [hnone.1, List.rdropWhile_nil]
    rfl

/-! ## The directory that is found -/

/-- Where no directory has a name that ends in `src`, the letters are not found. -/
theorem cutAtLast?_ofSegments {dirs : List String} {own : String}
    (hslash : ∀ s ∈ dirs ++ [own], '/' ∉ s.toList)
    (h : ∀ d ∈ dirs, Text.endsWith d "src" = false) :
    Text.cutAtLast? "src/".toList (Path.ofSegments (dirs ++ [own])).toList = none := by
  induction dirs with
  | nil =>
      rw [List.nil_append, Path.ofSegments_singleton]
      refine Option.eq_none_iff_forall_ne_some.2 fun parts hparts => ?_
      have hown := Text.cutAtLast?_eq_some hparts
      refine hslash own (by simp) ?_
      rw [hown]
      simp
  | cons d dirs ih =>
      rw [List.cons_append] at hslash
      obtain ⟨hd, hdirs⟩ := List.forall_mem_cons.1 hslash
      obtain ⟨hend, hends⟩ := List.forall_mem_cons.1 h
      rw [List.cons_append, Path.ofSegments_cons d (by simp), String.toList_append,
        String.toList_append, List.append_assoc]
      have hcut := Text.cutAtLast?_directory "src".toList (by decide) hd (ih hdirs hends)
      rw [Text.beforeTail?_toList_eq_none hend] at hcut
      exact hcut

theorem splitSources_of_forall (h : ∀ d ∈ directories path, Text.endsWith d "src" = false) :
    splitSources path = ("", path) := by
  obtain ⟨own, hsegs⟩ := exists_segments_eq path
  have hcut : Text.cutAtLast? "src/".toList path.toList = none := by
    rw [← Path.ofSegments_segments path, hsegs]
    exact cutAtLast?_ofSegments (hsegs ▸ fun s hs => Path.slash_not_mem_of_mem_segments hs) h
  rw [splitSources, hcut]

/-- The last directory whose name ends in `src` decides. -/
theorem splitSources_of_directories (h : directories path = above ++ (stem ++ "src") :: below)
    (hbelow : ∀ d ∈ below, Text.endsWith d "src" = false) :
    (splitSources path).1 = if stem = "" then Path.ofSegments (above ++ ["src"]) else "" := by
  obtain ⟨own, hsegs⟩ := exists_segments_eq path
  obtain ⟨front, hfront, hjoin⟩ := Path.exists_front above
  have hslash : ∀ s ∈ above ++ (stem ++ "src") :: (below ++ [own]), '/' ∉ s.toList := by
    intro s hs
    have hmem : s ∈ Path.segments path := by rwa [hsegs, h, List.append_assoc]
    exact Path.slash_not_mem_of_mem_segments hmem
  have hdir : '/' ∉ (stem ++ "src").toList := hslash _ (by simp)
  -- the text of the path: before the directory, the directory, and what lies below it
  have hpath : path.toList = front ++ ((stem ++ "src").toList ++
      '/' :: (Path.ofSegments (below ++ [own])).toList) := by
    rw [← Path.ofSegments_segments path, hsegs, h, List.append_assoc, hjoin _ (by simp),
      List.cons_append, Path.ofSegments_cons _ (by simp)]
    simp
  have hrest : Text.cutAtLast? "src/".toList (Path.ofSegments (below ++ [own])).toList = none :=
    cutAtLast?_ofSegments (fun s hs => hslash s (by simp_all)) hbelow
  have hstem : Text.beforeTail? "src".toList (stem ++ "src").toList = some stem.toList := by
    rw [Text.beforeTail?_eq_some_iff, String.toList_append]
  have hcut := Text.cutAtLast?_directory "src".toList (by decide) hdir hrest
  rw [hstem, Option.map_some] at hcut
  have hwhole : Text.cutAtLast? "src/".toList path.toList =
      some (front ++ stem.toList, (Path.ofSegments (below ++ [own])).toList) := by
    rw [hpath]
    exact Text.cutAtLast?_append hcut front
  rw [splitSources, hwhole]
  by_cases hempty : stem = ""
  · have hedge : (front.isEmpty || front.getLast? = some '/') = true := by
      rcases hfront with rfl | hlast
      · rfl
      · simp [hlast]
    simp only [hempty, String.toList_empty, List.append_nil, hedge, if_true]
    rw [← String.toList_inj, hjoin _ (by simp), Path.ofSegments_singleton, String.toList_ofList]
  · have hlast : stem.toList.getLast? ≠ some '/' :=
      fun hslash => hdir (by simp [List.mem_of_getLast? hslash])
    simp [hempty, hlast]

/-! ## Where they agree -/

/-- A member of a list with a property, behind which no other has it. -/
theorem exists_last {α : Type} {p : α → Bool} {l : List α} (h : ∃ a ∈ l, p a = true) :
    ∃ above a below, l = above ++ a :: below ∧ p a = true ∧ ∀ b ∈ below, p b = false := by
  obtain ⟨a, ha⟩ := Option.isSome_iff_exists.1 (List.find?_isSome.2 (by simpa using h) :
    (l.reverse.find? p).isSome)
  obtain ⟨hpa, before, after, hl, hbefore⟩ := List.find?_eq_some_iff_append.1 ha
  refine ⟨after.reverse, a, before.reverse, ?_, hpa, ?_⟩
  · rw [← List.reverse_reverse l, hl]
    simp
  · simpa using hbefore

/-- The directory that is found: that of the innermost `src`, unless a directory below it has a name
that ends in the same letters. -/
theorem splitSources_fst (path : String) :
    (splitSources path).1 =
      if ∃ d ∈ belowSources path, Text.endsWith d "src" = true then ""
      else innermostSources path := by
  by_cases hsome : ∃ d ∈ directories path, Text.endsWith d "src" = true
  · obtain ⟨above, d, below, hdirs, hd, hbelow⟩ := exists_last hsome
    obtain ⟨stem, rfl⟩ := Text.endsWith_iff.1 hd
    have hnot : "src" ∉ below := fun hmem => absurd (hbelow _ hmem) (by decide)
    rw [splitSources_of_directories hdirs hbelow]
    by_cases hstem : stem = ""
    · have hsplit : directories path = (above ++ ["src"]) ++ below := by
        rw [hdirs, hstem, List.append_assoc]
        rfl
      obtain ⟨hinner, hrest⟩ := sources_of_append hsplit hnot
      rw [List.rdropWhile_concat_neg _ _ _ (by simp)] at hinner
      rw [List.rtakeWhile_concat_neg _ _ _ (by simp), List.nil_append] at hrest
      have hnone : ¬ ∃ d ∈ belowSources path, Text.endsWith d "src" = true := by
        rintro ⟨d, hmem, hend⟩
        simp [hbelow d (hrest ▸ hmem)] at hend
      rw [if_pos hstem, if_neg hnone, hinner]
    · have hlonger : "src" ∉ (stem ++ "src") :: below := by
        rw [List.mem_cons, not_or]
        refine ⟨fun heq => hstem ?_, hnot⟩
        have hchars := congrArg String.toList heq
        rw [String.toList_append, List.self_eq_append_left] at hchars
        simpa using hchars
      obtain ⟨-, hrest⟩ := sources_of_append hdirs hlonger
      rw [if_neg hstem, if_pos ⟨stem ++ "src", by simp [hrest], hd⟩]
  · have hnone : ∀ d ∈ directories path, Text.endsWith d "src" = false := by simpa using hsome
    have hnot : "src" ∉ directories path := fun hmem => absurd (hnone _ hmem) (by decide)
    rw [splitSources_of_forall hnone, (innermostSources_eq_empty_iff path).2 hnot, ite_self]

/-! ## Names that start with `crate` -/

theorem exists_join_join (dir inner name : String) :
    ∃ deeper, Path.join (Path.join dir inner) name = Path.join dir deeper := by
  by_cases hdir : dir = ""
  · exact ⟨Path.join inner name, by simp [Path.join, hdir]⟩
  · exact ⟨inner ++ "/" ++ name, by simp [Path.join, hdir, String.append_assoc]⟩

/-- The files of a module lie below the sources. -/
theorem exists_join_of_mem_moduleFiles {sources file : String} {modulePath : List String}
    (h : file ∈ moduleFiles sources modulePath) : ∃ inner, file = Path.join sources inner := by
  by_cases hpath : modulePath = []
  · rw [hpath, moduleFiles] at h
    obtain ⟨name, -, rfl⟩ := List.mem_map.1 h
    exact ⟨name, rfl⟩
  · rw [moduleFiles_of_ne_nil hpath, List.mem_pair] at h
    rcases h with rfl | rfl
    · exact ⟨_, Path.join_append _ _ _⟩
    · exact exists_join_join _ _ _

/-- The candidates of a name that starts with `crate`: the files of its modules, from the sources
on. -/
theorem crateCandidates_crate (p : List String) (importer : String) :
    crateCandidates (spell ("crate" :: p)) importer =
      probes (cratePlace importer).sources [] (readBack p) := by
  refine crateCandidates_eq (importBase?_crate p _) ?_
  rw [length_splitDoubleColon, readSegments_spell_cons (by decide)]
  simp

theorem exists_join_of_mem_probes {sources file : String} {base segs : List String}
    (h : file ∈ probes sources base segs) : ∃ inner, file = Path.join sources inner := by
  obtain ⟨k, -, hfile⟩ := List.mem_flatMap.1 h
  exact exists_join_of_mem_moduleFiles hfile

end Resolve

open Resolve

/-- **The sources of a crate.**  For every path, the directory taken for the sources of its crate is
the innermost one named `src`, the root if there is none, unless the name of a directory below it
ends in `src`; then it is the root.  So it is the innermost one exactly if there is none at all, or
no such name below it.  Everything that is tried for a name that starts with `crate` lies below
it. -/
theorem cratePlace_sources (path : String) :
    (cratePlace path).sources =
        (if ∃ d ∈ belowSources path, Text.endsWith d "src" = true then ""
        else innermostSources path) ∧
      ((cratePlace path).sources = innermostSources path ↔
        "src" ∉ directories path ∨ ∀ d ∈ belowSources path, Text.endsWith d "src" = false) ∧
      (innermostSources path = "" ↔ "src" ∉ directories path) ∧
      ∀ p, ∀ candidate ∈ crateCandidates (spell ("crate" :: p)) path,
        ∃ inner, candidate = Path.join (cratePlace path).sources inner := by
  have hsources : (cratePlace path).sources = (splitSources path).1 := rfl
  refine ⟨splitSources_fst path, ?_, innermostSources_eq_empty_iff path, ?_⟩
  · rw [hsources, splitSources_fst, ← innermostSources_eq_empty_iff]
    by_cases hlike : ∃ d ∈ belowSources path, Text.endsWith d "src" = true
    · have hsome : ¬ ∀ d ∈ belowSources path, Text.endsWith d "src" = false := by simpa using hlike
      rw [if_pos hlike, or_iff_left hsome, eq_comm]
    · have hnone : ∀ d ∈ belowSources path, Text.endsWith d "src" = false := by simpa using hlike
      rw [if_neg hlike]
      exact iff_of_true rfl (.inr hnone)
  · intro p candidate hcandidate
    rw [crateCandidates_crate] at hcandidate
    exact exists_join_of_mem_probes hcandidate

/-- A crate inside the sources of another one, and a module that is looked for in it. -/
theorem cratePlace_sources_nested :
    (cratePlace "src/mysrc/core/src/a/b.rs").sources = "src/mysrc/core/src" ∧
      "src/mysrc/core/src/a.rs" ∈ crateCandidates "crate::a::Item" "src/mysrc/core/src/a/b.rs" ∧
      ∃ inner, "src/mysrc/core/src/a.rs" = Path.join "src/mysrc/core/src" inner := by
  obtain ⟨-, hagree, -, hbelow⟩ := cratePlace_sources "src/mysrc/core/src/a/b.rs"
  have hinner : innermostSources "src/mysrc/core/src/a/b.rs" = "src/mysrc/core/src" := by
    decide +kernel
  have hsources := (hagree.2 (.inr (by decide +kernel))).trans hinner
  have hmem : "src/mysrc/core/src/a.rs" ∈
      crateCandidates "crate::a::Item" "src/mysrc/core/src/a/b.rs" := by decide +kernel
  have hspell : spell ["crate", "a", "Item"] = "crate::a::Item" := by decide +kernel
  have hfound := hbelow ["a", "Item"] "src/mysrc/core/src/a.rs" (hspell ▸ hmem)
  rw [hsources] at hfound
  exact ⟨hsources, hmem, hfound⟩

/-- A crate with a module whose name ends like that of the sources. -/
def lookalikeCrate : ProjectFiles where
  paths := ["src/lib.rs", "src/mysrc/a.rs"]
  goModule := none

/-- From inside the directory `mysrc`, the root of the crate is not found. -/
theorem cratePlace_sources_lookalike :
    innermostSources "src/mysrc/a.rs" = "src" ∧ (cratePlace "src/mysrc/a.rs").sources = "" ∧
      resolveImport .rust "crate::Error" "src/lib.rs" lookalikeCrate = some "src/lib.rs" ∧
      resolveImport .rust "crate::Error" "src/mysrc/a.rs" lookalikeCrate = none := by
  decide +kernel

end SourceAtlas
