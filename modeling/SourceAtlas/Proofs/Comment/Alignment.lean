import Mathlib.Data.List.Forall2
import SourceAtlas.Proofs.Comment.Stripping

/-!
# Lines of a stripped text

Stripping keeps every line in its place: the stripped text has the line breaks of the text, and each
of its lines is made of the line of the text that stands there.

A scan does three things to the characters it reads: it copies one, it drops one that is no line
break, or it puts a space in the place of a block opener.  `Leaves` says that a text is left of
another by these three; every move does one or more of them (`Move.leaves`), and they can be told
line by line (`Leaves.splitOn`).  All that is said of lines then follows by induction on the three.

* `Delimiters.openings` — the number of places of a line at which a block opener stands.
* `IsLeftOf` — what stripping can leave of one line.
* `strip_aligned` — the main result.
-/

namespace SourceAtlas

namespace Delimiters

/-- The number of places of a text at which an opener of block comments stands. -/
def openings (d : Delimiters) : List Char → Nat
  | [] => 0
  | c :: rest => d.openings rest + if d.block.any (·.1.isPrefixOf (c :: rest)) then 1 else 0

variable {d : Delimiters}

theorem openings_le_append (w text : List Char) : d.openings text ≤ d.openings (w ++ text) := by
  induction w with
  | nil => exact Nat.le_refl _
  | cons c w ih =>
      rw [List.cons_append, openings]
      exact Nat.le_trans ih (Nat.le_add_right _ _)

/-- An opener in front of a text is one more. -/
theorem openings_lt_opener {pair : List Char × List Char} (hpair : pair ∈ d.block)
    (hne : pair.1 ≠ []) (text : List Char) : d.openings text < d.openings (pair.1 ++ text) := by
  obtain ⟨c, w, hopener⟩ := List.exists_cons_of_ne_nil hne
  have hany : d.block.any (·.1.isPrefixOf (pair.1 ++ text)) = true :=
    List.any_eq_true.2 ⟨pair, hpair, List.isPrefixOf_iff_prefix.2 (List.prefix_append _ _)⟩
  rw [hopener, List.cons_append] at hany ⊢
  rw [openings, if_pos hany]
  exact Nat.lt_succ_of_le (openings_le_append w text)

end Delimiters

namespace Comment

variable {d : Delimiters} {region region' : Region} {text text' out out' : List Char}

/-! ## What a scan leaves of a text -/

/-- `Leaves d text out`: of `text` is left `out`. -/
inductive Leaves (d : Delimiters) : List Char → List Char → Prop where
  /-- Nothing is left of nothing. -/
  | nil : Leaves d [] []
  /-- A character is copied. -/
  | copy {text out : List Char} (c : Char) (h : Leaves d text out) :
      Leaves d (c :: text) (c :: out)
  /-- A character that is no line break is dropped. -/
  | drop {text out : List Char} {c : Char} (hc : c ≠ '\n') (h : Leaves d text out) :
      Leaves d (c :: text) out
  /-- A space takes the place of an opener. -/
  | blank {text out : List Char} {pair : List Char × List Char} (hpair : pair ∈ d.block)
      (h : Leaves d text out) : Leaves d (pair.1 ++ text) (' ' :: out)

/-- A word without line breaks may be dropped. -/
theorem Leaves.drop_word {w : List Char} (hw : '\n' ∉ w) (h : Leaves d text out) :
    Leaves d (w ++ text) out := by
  induction w with
  | nil => exact h
  | cons c w ih =>
      have hc : c ≠ '\n' := fun hc => hw (hc ▸ List.mem_cons_self ..)
      exact .drop hc (ih (List.not_mem_of_not_mem_cons hw))

/-- What one move does. -/
theorem Move.leaves (hregion : region.Unbroken) (h : Move d region text out region' text')
    (hrest : Leaves d text' out') : Leaves d text (out ++ out') := by
  cases h with
  | openBlock _ hfind =>
      have hblank := Leaves.blank (List.mem_of_find?_eq_some hfind) hrest
      exact hblank
  | openLine => exact hrest
  | dropLine hc => exact .drop hc hrest
  | closeBlock => exact hrest.drop_word hregion
  | dropBlock _ hc => exact .drop hc hrest
  | escape => exact .copy _ (.copy _ hrest)
  | openLiteral | copyCode | endLine | breakBlock | escapeEnd | endLiteral | copyLiteral =>
      exact .copy _ hrest

theorem leaves_emitted (hp : d.Productive) (hd : d.Unbroken) (region : Region) (text : List Char) :
    region.Unbroken → Leaves d text (emitted d region text) := by
  induction region, text using move_induction hp with
  | nil region =>
      intro _
      rw [emitted_nil]
      exact .nil
  | move region text out region' text' hmove ih =>
      intro hregion
      rw [emitted_move hp hmove]
      exact hmove.leaves hregion (ih (hmove.unbroken hd hregion))

/-! ## Line by line -/

theorem splitOn_break (text : List Char) :
    ('\n' :: text).splitOn '\n' = [] :: text.splitOn '\n' := by
  rw [List.splitOn, List.splitOnP_cons_eq_if_modifyHead]
  rfl

/-- A word without line breaks in front of a text stands in front of its first line. -/
theorem splitOn_append_of_not_mem {w : List Char} (hw : '\n' ∉ w) (text : List Char) :
    ∃ line lines, text.splitOn '\n' = line :: lines ∧
      (w ++ text).splitOn '\n' = (w ++ line) :: lines := by
  induction w with
  | nil =>
      obtain ⟨line, lines, hlines⟩ := List.exists_cons_of_ne_nil (List.splitOn_ne_nil '\n' text)
      exact ⟨line, lines, hlines, hlines⟩
  | cons c w ih =>
      have hc : c ≠ '\n' := fun hc => hw (hc ▸ List.mem_cons_self ..)
      obtain ⟨line, lines, hlines, hword⟩ := ih (List.not_mem_of_not_mem_cons hw)
      refine ⟨line, lines, hlines, ?_⟩
      rw [List.splitOn] at hword ⊢
      rw [List.cons_append, List.splitOnP_cons_eq_if_modifyHead, if_neg (by simpa using hc), hword]
      rfl

/-- If `v` is left of `w` in front of every line, then also in front of a text of several lines. -/
theorem leaves_splitOn_append {w v : List Char} (hw : '\n' ∉ w) (hv : '\n' ∉ v)
    (hadd : ∀ line left, Leaves d line left → Leaves d (w ++ line) (v ++ left))
    (h : List.Forall₂ (Leaves d) (text.splitOn '\n') (out.splitOn '\n')) :
    List.Forall₂ (Leaves d) ((w ++ text).splitOn '\n') ((v ++ out).splitOn '\n') := by
  obtain ⟨line, lines, htext, htext'⟩ := splitOn_append_of_not_mem hw text
  obtain ⟨left, others, hout, hout'⟩ := splitOn_append_of_not_mem hv out
  rw [htext, hout] at h
  rw [htext', hout']
  cases h with
  | cons hline hlines => exact .cons (hadd line left hline) hlines

/-- What is left of a text is left of its lines, one by one. -/
theorem Leaves.splitOn (hd : d.Unbroken) (h : Leaves d text out) :
    List.Forall₂ (Leaves d) (text.splitOn '\n') (out.splitOn '\n') := by
  induction h with
  | nil => exact .cons .nil .nil
  | copy c _ ih =>
      by_cases hc : c = '\n'
      · subst hc
        rw [splitOn_break, splitOn_break]
        exact .cons .nil ih
      · have hword : '\n' ∉ [c] := by simpa using Ne.symm hc
        exact leaves_splitOn_append hword hword (fun _ _ => .copy c) ih
  | @drop _ _ c hc _ ih =>
      have hword : '\n' ∉ [c] := by simpa using Ne.symm hc
      exact leaves_splitOn_append hword List.not_mem_nil (fun _ _ => .drop hc) ih
  | blank hpair _ ih =>
      have hspace : '\n' ∉ [' '] := by decide
      exact leaves_splitOn_append (hd _ hpair).1 hspace (fun _ _ => .blank hpair) ih

/-! ## What is left of one line -/

/-- What stripping can leave of a line: it is no longer than the line, and without some of its
spaces, at most one for each block opener on the line, it is a subsequence of the line. -/
structure IsLeftOf (d : Delimiters) (line out : List Char) : Prop where
  length_le : out.length ≤ line.length
  subsequence : ∃ kept : List Char, kept.Sublist line ∧ kept.Sublist out ∧
    out.filter (· ≠ ' ') = kept.filter (· ≠ ' ') ∧ out.length ≤ kept.length + d.openings line

theorem Leaves.isLeftOf (hopener : ∀ pair ∈ d.block, pair.1 ≠ []) (h : Leaves d text out) :
    IsLeftOf d text out := by
  induction h with
  | nil => exact ⟨Nat.le_refl _, [], .slnil, .slnil, rfl, Nat.le_refl _⟩
  | @copy text _ c _ ih =>
      obtain ⟨hlength, kept, hline, hout, hfilter, hspaces⟩ := ih
      refine ⟨Nat.succ_le_succ hlength, c :: kept, hline.cons_cons c, hout.cons_cons c, ?_, ?_⟩
      · rw [List.filter_cons, List.filter_cons, hfilter]
      · have hmore := Delimiters.openings_le_append (d := d) [c] text
        simp only [List.singleton_append, List.length_cons] at hmore ⊢
        omega
  | @drop text _ c _ _ ih =>
      obtain ⟨hlength, kept, hline, hout, hfilter, hspaces⟩ := ih
      have hmore := Delimiters.openings_le_append (d := d) [c] text
      exact ⟨Nat.le_succ_of_le hlength, kept, hline.cons c, hout, hfilter,
        Nat.le_trans hspaces (Nat.add_le_add_left hmore _)⟩
  | @blank text _ pair hpair _ ih =>
      obtain ⟨hlength, kept, hline, hout, hfilter, hspaces⟩ := ih
      have hmore := Delimiters.openings_lt_opener hpair (hopener pair hpair) text
      have hpos := List.length_pos_iff.2 (hopener pair hpair)
      refine ⟨?_, kept, hline.trans (List.sublist_append_right _ _), hout.cons ' ', ?_, ?_⟩
      · simp only [List.length_cons, List.length_append]
        omega
      · rw [List.filter_cons, hfilter]
        rfl
      · simp only [List.length_cons]
        omega

/-- **Stripping keeps every line in its place.**  Let no block opener be empty and no delimiter of
block comments contain a line break.  Then the stripped text has as many line breaks as the text,
and each of its lines is what can be left of the line in the same place. -/
theorem strip_aligned {d : Delimiters} (hopener : ∀ pair ∈ d.block, pair.1 ≠ [])
    (hd : d.Unbroken) (text : List Char) :
    (strip d text).count '\n' = text.count '\n' ∧
      List.Forall₂ (IsLeftOf d) (text.splitOn '\n') ((strip d text).splitOn '\n') := by
  have hp : d.Productive := fun pair hpair => Or.inl (hopener pair hpair)
  rw [strip_eq_emitted hp]
  refine ⟨count_break_emitted hp hd .code text True.intro, ?_⟩
  have hleaves := leaves_emitted hp hd .code text True.intro
  exact (hleaves.splitOn hd).imp fun _ _ hline => hline.isLeftOf hopener

/-- Two comments on one line leave two spaces, and a comment over two lines keeps its line break. -/
theorem strip_aligned_twoLines :
    (∀ pair ∈ Delimiters.slashStyle.block, pair.1 ≠ []) ∧ Delimiters.slashStyle.Unbroken ∧
      List.Forall₂ (IsLeftOf .slashStyle) ["/**/a/*".toList, "*/b".toList]
        [" a ".toList, "b".toList] := by
  have hopener : ∀ pair ∈ Delimiters.slashStyle.block, pair.1 ≠ [] := by decide
  have hd : Delimiters.slashStyle.Unbroken := by decide
  exact ⟨hopener, hd, (strip_aligned hopener hd "/**/a/*\n*/b".toList).2⟩

end Comment
end SourceAtlas
