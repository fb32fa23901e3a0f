import Mathlib.Data.List.Nodup
import SourceAtlas.Proofs.Purpose.Signals

/-!
# The words of directories

The words of a path are read after everything behind its last dot has been cut off.  The cut is
meant for the extension of the file name; but a file name need not have one, and then the last dot
is one in the directories.

* `readWords_append` — a separator ends a word, and what stands behind it is read as if nothing
  stood before it; so the words of two names with a separator between them are those of the first,
  followed by those of the second (`nameTokens_append`).
* `Evidence.pathStem_of_cut`, `Evidence.pathStem_of_no_dot` — what is left of a path;
  `pathStem_of_dotted_directory` — where that is less than its directory.
* `directoryCounts_iff` — the words of the directory all count for a file in it, unless the file
  name has no dot and a purpose shows behind the last dot of the directory and not before it.
-/

namespace SourceAtlas
namespace Purpose

/-! ## Words and separators -/

/-- The words that are finished stand in front of those that are still to be read. -/
theorem readWords_done (name : List Char) : ∀ (current : Option OpenWord) (done : List (List Char)),
    readWords current done name = done.reverse ++ readWords current [] name := by
  induction name with
  | nil =>
      intro current done
      cases current <;> simp [readWords, closeWord]
  | cons c rest ih =>
      intro current done
      simp only [readWords]
      split
      · rw [ih, ih none (closeWord current [])]
        cases current <;> simp [closeWord]
      · cases current with
        | none => exact ih _ done
        | some w =>
            dsimp only
            split
            · rw [ih, ih _ [w.letters.reverse]]
              simp
            · exact ih _ done

section

variable {separator : Char}

/-- Whether a capital begins a word does not depend on what stands behind a separator. -/
theorem beginsWord_append (hsmall : Text.isLowercase separator = false) (previous c : Char)
    (front back : List Char) :
    beginsWord previous c (front ++ separator :: back) = beginsWord previous c front := by
  cases front <;> simp [beginsWord, hsmall]

/-- **A separator ends a word.**  What stands behind it is read as if nothing stood before it. -/
theorem readWords_append (hseparates : Text.isAlphanumeric separator = false)
    (hsmall : Text.isLowercase separator = false) (back : List Char) (front : List Char) :
    ∀ (current : Option OpenWord) (done : List (List Char)),
      readWords current done (front ++ separator :: back) =
        readWords current done front ++ readWords none [] back := by
  induction front with
  | nil =>
      intro current done
      simp only [List.nil_append, readWords, hseparates, Bool.not_false, if_true]
      exact readWords_done back none _
  | cons c front ih =>
      intro current done
      simp only [List.cons_append, readWords, beginsWord_append hsmall]
      split
      · exact ih none _
      · cases current with
        | none => exact ih _ done
        | some w =>
            dsimp only
            split
            · exact ih _ _
            · exact ih _ done

theorem nameTokens_append (hseparates : Text.isAlphanumeric separator = false)
    (hsmall : Text.isLowercase separator = false) {name front back : String}
    (hname : name.toList = front.toList ++ separator :: back.toList) :
    nameTokens name = nameTokens front ++ nameTokens back := by
  unfold nameTokens
  rw [hname, readWords_append hseparates hsmall, List.map_append]

end

theorem nameTokens_slash (dir name : String) :
    nameTokens (dir ++ "/" ++ name) = nameTokens dir ++ nameTokens name := by
  have hseparates : Text.isAlphanumeric '/' = false := by decide +kernel
  have hsmall : Text.isLowercase '/' = false := by decide +kernel
  exact nameTokens_append hseparates hsmall (by simp)

theorem nameTokens_dot (front back : String) :
    nameTokens (front ++ "." ++ back) = nameTokens front ++ nameTokens back := by
  have hseparates : Text.isAlphanumeric '.' = false := by decide +kernel
  have hsmall : Text.isLowercase '.' = false := by decide +kernel
  exact nameTokens_append hseparates hsmall (by simp)

/-! ## What is left of a path -/

namespace Evidence

variable {e : Evidence} {front back : String}

theorem pathStem_of_cut (hpath : e.path = front ++ "." ++ back) (hback : '.' ∉ back.toList) :
    e.pathStem = front := by
  have hcut : Text.cutLast? '.' e.path.toList = some (front.toList, back.toList) := by
    rw [Text.cutLast?_eq_some_iff, hpath]
    exact ⟨by simp, hback⟩
  unfold pathStem
  rw [hcut]
  exact String.ofList_toList

theorem pathStem_of_no_dot (h : '.' ∉ e.path.toList) : e.pathStem = e.path := by
  have hcut : Text.cutLast? '.' e.path.toList = none := by
    rw [Text.cutLast?, Text.cutFirst?_eq_none (by simpa using h)]
    rfl
  unfold pathStem
  rw [hcut]

end Evidence

/-! ## The directory of a file -/

/-- The words of a directory all count for a file in it: whatever else is known of the file, it has
the purposes that they show. -/
def DirectoryCounts (dir name : String) : Prop :=
  ∀ e : Evidence, e.path = dir ++ "/" ++ name →
    ∀ s ∈ signals, ∀ word ∈ s.words, word ∈ nameTokens dir → s.purpose ∈ (classify e).toList

theorem Signals.inName_iff {s : Signals} {name : String} :
    s.inName name = true ↔ ∃ word ∈ s.words, word ∈ nameTokens name := by
  simp [inName, List.any_eq_true]

theorem Signals.inName_slash {s : Signals} {dir name : String} :
    s.inName (dir ++ "/" ++ name) = true ↔ s.inName dir = true ∨ s.inName name = true := by
  simp only [inName_iff, nameTokens_slash, List.mem_append, and_or_left, exists_or]

theorem Signals.inName_dot {s : Signals} {front back : String} :
    s.inName (front ++ "." ++ back) = true ↔ s.inName front = true ∨ s.inName back = true := by
  simp only [inName_iff, nameTokens_dot, List.mem_append, and_or_left, exists_or]

theorem mem_classify_of_inName {s : Signals} {e : Evidence} (hs : s ∈ signals)
    (h : s.inName e.pathStem = true) : s.purpose ∈ (classify e).toList :=
  mem_classify_iff.2 (Or.inl (mem_shown_iff.2 ⟨s, hs, .byPath h, rfl⟩))

/-- What is known of a file that is empty. -/
def emptyFile (path : String) : Evidence := ⟨path, [], [], [], ""⟩

/-- No two signals show the same purpose. -/
theorem signals_inj {s s' : Signals} (hs : s ∈ signals) (hs' : s' ∈ signals)
    (h : s.purpose = s'.purpose) : s = s' := by
  have hnodup : (signals.map (·.purpose)).Nodup := by decide
  exact List.inj_on_of_nodup_map hnodup hs hs' h

/-- The purposes of an empty file show in its path. -/
theorem mem_classify_emptyFile_iff {s : Signals} (hs : s ∈ signals) (path : String) :
    s.purpose ∈ (classify (emptyFile path)).toList ↔ s.inName (emptyFile path).pathStem = true := by
  refine ⟨fun h => ?_, mem_classify_of_inName hs⟩
  have hparticular : ∀ s ∈ signals, s.purpose ≠ .general := by decide
  have hmarkers : ∀ s ∈ signals, s.inText "" = false := by decide
  obtain ⟨s', hs', hshows, hpurpose⟩ := (mem_classify_iff_shows (hparticular s hs)).1 h
  obtain rfl := signals_inj hs' hs hpurpose
  cases hshows with
  | byImport hname _ => exact absurd hname List.not_mem_nil
  | byPath hpath => exact hpath
  | byName hname _ => exact absurd hname List.not_mem_nil
  | byText htext =>
      rw [show (emptyFile path).text = "" from rfl, hmarkers s' hs'] at htext
      cases htext

/-- With an extension to cut off, all of the directory is left. -/
theorem directoryCounts_of_extension {dir name : String} (h : '.' ∈ name.toList) :
    DirectoryCounts dir name := by
  obtain ⟨stem, extension, rfl, hextension⟩ := Text.exists_last_dot h
  intro e hpath s hs word hword hdir
  have hstem : e.pathStem = dir ++ "/" ++ stem := by
    refine Evidence.pathStem_of_cut ?_ hextension
    simp only [hpath, String.append_assoc]
  refine mem_classify_of_inName hs ?_
  rw [hstem, Signals.inName_slash]
  exact Or.inl (Signals.inName_iff.2 ⟨word, hword, hdir⟩)

/-- Without any dot, the path is not cut. -/
theorem directoryCounts_of_no_dot {dir name : String} (hname : '.' ∉ name.toList)
    (hdir : '.' ∉ dir.toList) : DirectoryCounts dir name := by
  intro e hpath s hs word hword hmem
  have hstem : e.pathStem = dir ++ "/" ++ name := by
    rw [← hpath]
    refine Evidence.pathStem_of_no_dot ?_
    simp [hpath, hname, hdir]
  refine mem_classify_of_inName hs ?_
  rw [hstem, Signals.inName_slash]
  exact Or.inl (Signals.inName_iff.2 ⟨word, hword, hmem⟩)

/-- Where the file name has no dot, the directory is cut at its last one. -/
theorem pathStem_of_dotted_directory {e : Evidence} {front back name : String}
    (hpath : e.path = front ++ "." ++ back ++ "/" ++ name) (hback : '.' ∉ back.toList)
    (hname : '.' ∉ name.toList) : e.pathStem = front := by
  have hcut : e.path = front ++ "." ++ (back ++ "/" ++ name) := by
    simp only [hpath, String.append_assoc]
  refine Evidence.pathStem_of_cut hcut ?_
  simp [hback, hname]

theorem directoryCounts_dotted_iff {front back name : String} (hback : '.' ∉ back.toList)
    (hname : '.' ∉ name.toList) :
    DirectoryCounts (front ++ "." ++ back) name ↔
      ∀ s ∈ signals, s.inName back = true → s.inName front = true := by
  constructor
  · intro h s hs hshown
    obtain ⟨word, hword, hmem⟩ := Signals.inName_iff.1 hshown
    have hdir : word ∈ nameTokens (front ++ "." ++ back) := by
      rw [nameTokens_dot]
      exact List.mem_append_right _ hmem
    -- The empty file in that directory has nothing but its path.
    have hpurpose := h (emptyFile _) rfl s hs word hword hdir
    rw [mem_classify_emptyFile_iff hs, pathStem_of_dotted_directory rfl hback hname] at hpurpose
    exact hpurpose
  · intro h e hpath s hs word hword hmem
    have hshown : s.inName (front ++ "." ++ back) = true :=
      Signals.inName_iff.2 ⟨word, hword, hmem⟩
    refine mem_classify_of_inName hs ?_
    rw [pathStem_of_dotted_directory hpath hback hname]
    rcases Signals.inName_dot.1 hshown with hfront | hlost
    · exact hfront
    · exact h s hs hlost

/-- **When the words of a directory count.**  They all count for a file whose name has a dot, and in
a directory without dots.  Otherwise those behind the last dot of the directory are cut off with it,
and all is well only if no purpose shows there that does not also show before the dot. -/
theorem directoryCounts_iff (dir name : String) :
    DirectoryCounts dir name ↔
      '.' ∈ name.toList ∨ '.' ∉ dir.toList ∨
        ∃ front back, dir = front ++ "." ++ back ∧ '.' ∉ back.toList ∧
          ∀ s ∈ signals, s.inName back = true → s.inName front = true := by
  constructor
  · intro h
    by_cases hname : '.' ∈ name.toList
    · exact Or.inl hname
    · by_cases hdir : '.' ∈ dir.toList
      · obtain ⟨front, back, rfl, hback⟩ := Text.exists_last_dot hdir
        exact Or.inr (Or.inr ⟨front, back, rfl, hback,
          (directoryCounts_dotted_iff hback hname).1 h⟩)
      · exact Or.inr (Or.inl hdir)
  · intro h
    by_cases hname : '.' ∈ name.toList
    · exact directoryCounts_of_extension hname
    · rcases h with hdot | hdir | ⟨front, back, rfl, hback, hshown⟩
      · exact absurd hdot hname
      · exact directoryCounts_of_no_dot hname hdir
      · exact (directoryCounts_dotted_iff hback hname).2 hshown

/-- A directory of a versioned interface: its word `api` does not count for a makefile in it. -/
theorem not_directoryCounts_versioned : ¬ DirectoryCounts "v1.api" "Makefile" := by
  intro h
  have hlost : (classify (emptyFile "v1.api/Makefile")).toList = [.general] := by decide +kernel
  have hword : ∃ s ∈ signals, s.purpose = .serviceEndpoint ∧ "api" ∈ s.words := by decide
  obtain ⟨s, hs, hpurpose, hapi⟩ := hword
  have hmem := h (emptyFile "v1.api/Makefile") rfl s hs "api" hapi (by decide +kernel)
  rw [hlost, hpurpose] at hmem
  revert hmem
  decide

end Purpose
end SourceAtlas
