import SourceAtlas.Path.Basic

/-!
# Paths and their segments

A path is its segments with slashes between them (`ofSegments_segments`), and segments without
slashes are those of the path that they make (`segments_ofSegments`).  The empty path is the one
exception: it is made of no segments, but has one, which is empty.  Where only names count
(`IsName`), there is no exception (`steps_ofSegments`).
-/

namespace SourceAtlas

/-- A name that an entry of a directory may have. -/
def Path.IsName (name : String) : Prop := name ≠ "" ∧ '/' ∉ name.toList

instance (name : String) : Decidable (Path.IsName name) :=
  inferInstanceAs (Decidable (name ≠ "" ∧ '/' ∉ name.toList))

/-- The names on the way to a path. -/
def Path.steps (path : String) : List String := (Path.segments path).filter (· ≠ "")

namespace Path

/-! ## From a path to its segments and back -/

theorem slash_not_mem_of_mem_splitOn (text : List Char) :
    ∀ piece ∈ text.splitOn '/', '/' ∉ piece := by
  induction text with
  | nil => simp
  | cons c rest ih =>
      rw [List.splitOn_cons_eq_if_modifyHead]
      split
      · simpa using ih
      · rename_i hc
        cases hrest : rest.splitOn '/' with
        | nil => simp
        | cons first others =>
            rw [hrest] at ih
            simp only [List.forall_mem_cons] at ih
            rw [List.modifyHead_cons, List.forall_mem_cons]
            have hfirst : '/' ∉ c :: first := by
              simp only [List.mem_cons, not_or]
              exact ⟨fun h => hc (beq_iff_eq.2 h.symm), ih.1⟩
            exact ⟨hfirst, ih.2⟩

theorem segments_ne_nil (path : String) : segments path ≠ [] := by
  simp [segments]

theorem slash_not_mem_of_mem_segments {path s : String} (h : s ∈ segments path) :
    '/' ∉ s.toList := by
  obtain ⟨piece, hpiece, rfl⟩ := List.mem_map.1 h
  simpa using slash_not_mem_of_mem_splitOn _ piece hpiece

theorem toList_ofSegments (segs : List String) :
    (ofSegments segs).toList = ['/'].intercalate (segs.map (·.toList)) := by
  rw [ofSegments, Text.joinWith, String.toList_ofList]
  rfl

theorem ofSegments_segments (path : String) : ofSegments (segments path) = path := by
  rw [← String.toList_inj, toList_ofSegments, segments, List.map_map]
  have hid : ((fun s : String => s.toList) ∘ String.ofList) = id := by
    funext s
    simp
  rw [hid, List.map_id, List.intercalate_splitOn]

theorem segments_ofSegments {segs : List String} (hne : segs ≠ [])
    (h : ∀ s ∈ segs, '/' ∉ s.toList) : segments (ofSegments segs) = segs := by
  rw [segments, toList_ofSegments, List.splitOn_intercalate _ (by simpa using h) (by simpa using hne),
    List.map_map]
  have hid : (String.ofList ∘ fun s : String => s.toList) = id := by
    funext s
    simp
  rw [hid, List.map_id]

theorem ofSegments_singleton (own : String) : ofSegments [own] = own := by
  rw [← String.toList_inj, toList_ofSegments]
  simp

theorem ofSegments_cons (first : String) {others : List String} (hne : others ≠ []) :
    ofSegments (first :: others) = first ++ "/" ++ ofSegments others := by
  have hslash : "/".toList = ['/'] := rfl
  rw [← String.toList_inj, String.toList_append, String.toList_append, toList_ofSegments,
    toList_ofSegments, List.map_cons, List.intercalate_cons_of_ne_nil (by simpa using hne), hslash]

/-- Between two parts of a path stands a slash, unless one of them has no segments. -/
theorem ofSegments_append {above below : List String} (habove : above ≠ []) (hbelow : below ≠ []) :
    ofSegments (above ++ below) = ofSegments above ++ "/" ++ ofSegments below := by
  induction above with
  | nil => exact absurd rfl habove
  | cons first others ih =>
      by_cases hothers : others = []
      · rw [hothers, List.singleton_append, ofSegments_cons first hbelow, ofSegments_singleton]
      · rw [List.cons_append, ofSegments_cons first (by simp [hbelow]), ih hothers,
          ofSegments_cons first hothers]
        simp only [String.append_assoc]

/-- The last segment stands after a slash, unless it is the only one. -/
theorem ofSegments_concat {dirs : List String} (hne : dirs ≠ []) (own : String) :
    ofSegments (dirs ++ [own]) = ofSegments dirs ++ "/" ++ own := by
  rw [ofSegments_append hne (List.cons_ne_nil _ _), ofSegments_singleton]

/-- What is added to a path is added to its last segment. -/
theorem ofSegments_concat_append (dirs : List String) (own tail : String) :
    ofSegments (dirs ++ [own]) ++ tail = ofSegments (dirs ++ [own ++ tail]) := by
  by_cases hdirs : dirs = []
  · simp [hdirs, ofSegments_singleton]
  · rw [ofSegments_concat hdirs, ofSegments_concat hdirs, String.append_assoc]

theorem segments_of_not_mem {name : String} (h : '/' ∉ name.toList) : segments name = [name] := by
  rw [segments, List.splitOn_eq_singleton h]
  simp

theorem segments_of_isName {name : String} (h : IsName name) : segments name = [name] :=
  segments_of_not_mem h.2

theorem segments_append_slash (dir name : String) :
    segments (dir ++ "/" ++ name) = segments dir ++ segments name := by
  have hslash : "/".toList = ['/'] := rfl
  simp only [segments, String.toList_append, hslash, List.append_assoc, List.cons_append,
    List.nil_append, List.splitOn_append_cons_self, List.map_append]

theorem segments_join (dir name : String) :
    segments (join dir name) = (if dir = "" then [] else segments dir) ++ segments name := by
  rw [join]
  split
  · rfl
  · exact segments_append_slash dir name

theorem join_inj {dir name name' : String} (h : join dir name = join dir name') : name = name' := by
  have hsegs := congrArg segments h
  rw [segments_join, segments_join, List.append_cancel_left_eq] at hsegs
  rw [← ofSegments_segments name, hsegs, ofSegments_segments]

/-- What is added to a name below a directory is added to the whole path. -/
theorem join_append (dir name tail : String) : join dir name ++ tail = join dir (name ++ tail) := by
  rw [join, join]
  split
  · rfl
  · rw [String.append_assoc]

theorem lastSegment_of_segments {path own : String} {dirs : List String}
    (h : segments path = dirs ++ [own]) : lastSegment path = own := by
  rw [lastSegment, h, List.getLast?_concat, Option.getD_some]

theorem parent_of_segments {path own : String} {dirs : List String}
    (h : segments path = dirs ++ [own]) : parent path = ofSegments dirs := by
  rw [parent, h, List.dropLast_concat]

/-- An ending without a slash belongs to the last segment. -/
theorem endsWith_iff_of_segments {path tail own : String} {dirs : List String}
    (h : segments path = dirs ++ [own]) (htail : '/' ∉ tail.toList) :
    Text.endsWith path tail = true ↔ tail.toList <:+ own.toList := by
  rw [Text.endsWith, List.isSuffixOf_iff_suffix, ← ofSegments_segments path, h]
  by_cases hdirs : dirs = []
  · rw [hdirs, List.nil_append, ofSegments_singleton]
  · rw [ofSegments_concat hdirs, String.toList_append, String.toList_append, List.append_assoc]
    constructor
    · intro hsuffix
      rcases List.suffix_or_suffix_of_suffix hsuffix (List.suffix_append _ _) with hin | hover
      · -- An ending that is longer than the last segment would hold the slash before it.
        rcases List.suffix_cons_iff.1 hin with heq | hin
        · exact absurd (heq ▸ List.mem_cons_self) htail
        · exact hin
      · exact absurd (hover.subset List.mem_cons_self) htail
    · exact fun hsuffix => hsuffix.trans (List.suffix_append_of_suffix (List.suffix_append _ _))

/-! ## Names on the way to a path -/

/-- The names on the way to a path are those that it was made of. -/
theorem steps_ofSegments {segs : List String} (h : ∀ s ∈ segs, IsName s) :
    steps (ofSegments segs) = segs := by
  cases segs with
  | nil => rfl
  | cons first rest =>
      rw [steps, segments_ofSegments (List.cons_ne_nil _ _) fun s hs => (h s hs).2]
      exact List.filter_eq_self.2 fun s hs => by simpa using (h s hs).1

theorem ofSegments_concat_ne_empty {dirs : List String} {own : String}
    (h : ∀ s ∈ dirs ++ [own], IsName s) : ofSegments (dirs ++ [own]) ≠ "" := by
  intro hempty
  have hsteps := steps_ofSegments h
  rw [hempty] at hsteps
  simp [steps, segments] at hsteps

/-- A name below a directory that is made of names. -/
theorem join_ofSegments {dirs : List String} (h : ∀ s ∈ dirs, IsName s) (own : String) :
    join (ofSegments dirs) own = ofSegments (dirs ++ [own]) := by
  by_cases hdirs : dirs = []
  · rw [hdirs, List.nil_append, ofSegments_singleton]
    rfl
  · have hne : ofSegments dirs ≠ "" := by
      rw [← List.dropLast_concat_getLast hdirs] at h ⊢
      exact ofSegments_concat_ne_empty h
    rw [join, if_neg hne, ofSegments_concat hdirs]

/-- A path without empty segments is its last segment below its directory. -/
theorem join_parent {path own : String} {dirs : List String} (h : segments path = dirs ++ [own])
    (hnames : "" ∉ segments path) : join (parent path) own = path := by
  have hdirs : ∀ s ∈ dirs, IsName s := by
    intro s hs
    have hmem : s ∈ segments path := h ▸ List.mem_append_left _ hs
    exact ⟨ne_of_mem_of_not_mem hmem hnames, slash_not_mem_of_mem_segments hmem⟩
  rw [parent_of_segments h, join_ofSegments hdirs, ← h, ofSegments_segments]

theorem names_ofSegments {names : List String} (h : ∀ s ∈ names, IsName s) :
    Path.names (ofSegments names) = names.filter fun s => s ≠ "." && s ≠ ".." := by
  have hsteps := congrArg (List.filter fun s => s ≠ "." && s ≠ "..") (steps_ofSegments h)
  rw [steps, List.filter_filter] at hsteps
  rw [Path.names, ← hsteps]
  refine List.filter_congr fun s _ => ?_
  rw [Bool.and_assoc, Bool.and_comm]

end Path

end SourceAtlas
