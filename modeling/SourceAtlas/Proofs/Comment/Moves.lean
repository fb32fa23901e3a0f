import SourceAtlas.Comment.Scanner

/-!
# Moves of the comment scanner

What one step of the scanner can do, and what a whole scan is made of.

* `Move` — the moves, one constructor for each thing that can happen at the front of the text.  A
  move says what is written and where the scanner stands afterwards; `step_of_move` and
  `exists_move` say that the steps of the scanner are exactly the moves.
* `Productive` — delimiters under which a scan comes to an end: no block comment has both delimiters
  empty.  `potential` falls with every move, so the bounded run reaches the end of the text.
* `emitted`, `lastRegion` — what is written from a given region on, and where the scanner stands at
  the end.  Both follow the moves (`emitted_move`, `lastRegion_move`), and `move_induction` is the
  induction that every statement about a whole scan uses.
-/

namespace SourceAtlas

namespace Delimiters

/-- No comment begins at the front of a text. -/
def NoComment (d : Delimiters) (text : List Char) : Prop :=
  (∀ pair ∈ d.block, ¬ pair.1 <+: text) ∧ ∀ marker ∈ d.line, ¬ marker <+: text

/-- No block comment has both delimiters empty. -/
def Productive (d : Delimiters) : Prop := ∀ pair ∈ d.block, pair.1 ≠ [] ∨ pair.2 ≠ []

end Delimiters

namespace Comment

variable {d : Delimiters} {region region' : Region} {text text' out : List Char}

/-! ## The moves -/

/-- One move of the scanner: `Move d region text out region' text'` leads from `region` with `text`
ahead to `region'` with `text'` ahead, and writes `out`. -/
inductive Move (d : Delimiters) :
    Region → List Char → List Char → Region → List Char → Prop where
  /-- A block comment opens and leaves a space. -/
  | openBlock {opener closer rest : List Char} (hne : opener ++ rest ≠ [])
      (hfind : d.block.find? (fun pair => pair.1.isPrefixOf (opener ++ rest)) =
        some (opener, closer)) :
      Move d .code (opener ++ rest) [' '] (.blockComment closer) rest
  /-- A line comment opens; its marker is read as a part of it. -/
  | openLine {c : Char} {rest : List Char} (hblock : ∀ pair ∈ d.block, ¬ pair.1 <+: c :: rest)
      (hline : ∃ marker ∈ d.line, marker <+: c :: rest) :
      Move d .code (c :: rest) [] .lineComment (c :: rest)
  /-- A string literal opens. -/
  | openLiteral {c : Char} {rest : List Char} (hplain : d.NoComment (c :: rest))
      (hquote : d.isQuote c = true) :
      Move d .code (c :: rest) [c] (.literal c (!d.quotes.contains c)) rest
  /-- A character of the program is copied. -/
  | copyCode {c : Char} {rest : List Char} (hplain : d.NoComment (c :: rest))
      (hquote : d.isQuote c = false) : Move d .code (c :: rest) [c] .code rest
  /-- A line comment ends with its line. -/
  | endLine {rest : List Char} : Move d .lineComment ('\n' :: rest) ['\n'] .code rest
  /-- A character of a line comment is dropped. -/
  | dropLine {c : Char} {rest : List Char} (hc : c ≠ '\n') :
      Move d .lineComment (c :: rest) [] .lineComment rest
  /-- A block comment closes. -/
  | closeBlock {closer rest : List Char} (hne : closer ++ rest ≠ []) :
      Move d (.blockComment closer) (closer ++ rest) [] .code rest
  /-- A line break inside a block comment is kept. -/
  | breakBlock {closer rest : List Char} (hopen : ¬ closer <+: '\n' :: rest) :
      Move d (.blockComment closer) ('\n' :: rest) ['\n'] (.blockComment closer) rest
  /-- Any other character of a block comment is dropped. -/
  | dropBlock {closer : List Char} {c : Char} {rest : List Char} (hopen : ¬ closer <+: c :: rest)
      (hc : c ≠ '\n') : Move d (.blockComment closer) (c :: rest) [] (.blockComment closer) rest
  /-- An escaped character of a literal is copied together with its backslash. -/
  | escape {quote : Char} {multiline : Bool} {e : Char} {rest : List Char} :
      Move d (.literal quote multiline) ('\\' :: e :: rest) ['\\', e] (.literal quote multiline)
        rest
  /-- A backslash at the very end of the text escapes nothing. -/
  | escapeEnd {quote : Char} {multiline : Bool} :
      Move d (.literal quote multiline) ['\\'] ['\\'] (.literal quote multiline) []
  /-- A literal ends with its quote, or with its line if it may not span lines. -/
  | endLiteral {quote : Char} {multiline : Bool} {c : Char} {rest : List Char} (hc : c ≠ '\\')
      (hend : c = quote ∨ c = '\n' ∧ multiline = false) :
      Move d (.literal quote multiline) (c :: rest) [c] .code rest
  /-- Any other character of a literal is copied. -/
  | copyLiteral {quote : Char} {multiline : Bool} {c : Char} {rest : List Char} (hc : c ≠ '\\')
      (hgo : ¬ (c = quote ∨ c = '\n' ∧ multiline = false)) :
      Move d (.literal quote multiline) (c :: rest) [c] (.literal quote multiline) rest

theorem Move.ne_nil (h : Move d region text out region' text') : text ≠ [] := by
  cases h with
  | openBlock hne => exact hne
  | closeBlock hne => exact hne
  | _ => exact List.cons_ne_nil _ _

/-- What is ahead after a move was ahead before it. -/
theorem Move.suffix (h : Move d region text out region' text') : text' <:+ text := by
  cases h with
  | openBlock | closeBlock => exact List.suffix_append _ _
  | openLine => exact List.suffix_rfl
  | escape => exact ⟨['\\', _], rfl⟩
  | _ => exact List.suffix_cons _ _

theorem isPrefixOf_eq_false {w text : List Char} (h : ¬ w <+: text) :
    w.isPrefixOf text = false := by
  rw [← Bool.not_eq_true, List.isPrefixOf_iff_prefix]
  exact h

theorem find?_opener_eq_none (h : ∀ pair ∈ d.block, ¬ pair.1 <+: text) :
    d.block.find? (fun pair => pair.1.isPrefixOf text) = none := by
  rw [List.find?_eq_none]
  intro pair hpair hprefix
  exact h pair hpair (List.isPrefixOf_iff_prefix.1 hprefix)

theorem any_marker_eq_false (h : ∀ marker ∈ d.line, ¬ marker <+: text) :
    d.line.any (·.isPrefixOf text) = false := by
  rw [List.any_eq_false]
  intro marker hmarker hprefix
  exact h marker hmarker (List.isPrefixOf_iff_prefix.1 hprefix)

/-- In program text at whose front no comment begins, a step looks at one character only. -/
theorem stepCode_of_noComment {c : Char} {rest : List Char} (h : d.NoComment (c :: rest))
    (written : List Char) :
    Scan.stepCode d ⟨.code, c :: rest, written⟩ c rest =
      if d.quotes.contains c then ⟨.literal c false, rest, c :: written⟩
      else if d.multilineQuotes.contains c then ⟨.literal c true, rest, c :: written⟩
      else ⟨.code, rest, c :: written⟩ := by
  simp only [Scan.stepCode, find?_opener_eq_none h.1, any_marker_eq_false h.2,
    Bool.false_eq_true, if_false]

/-- A move is a step of the scanner. -/
theorem step_of_move (h : Move d region text out region' text') (written : List Char) :
    Scan.step d ⟨region, text, written⟩ = ⟨region', text', out.reverse ++ written⟩ := by
  cases h with
  | @openBlock opener closer rest hne hfind =>
      obtain ⟨c, rest', htext⟩ := List.exists_cons_of_ne_nil hne
      simp only [Scan.step, htext, Scan.stepCode]
      rw [← htext, hfind]
      simp
  | @openLine c rest hblock hline =>
      have hany : d.line.any (·.isPrefixOf (c :: rest)) = true := by
        obtain ⟨marker, hmarker, hprefix⟩ := hline
        exact List.any_eq_true.2 ⟨marker, hmarker, List.isPrefixOf_iff_prefix.2 hprefix⟩
      simp only [Scan.step, Scan.stepCode, find?_opener_eq_none hblock, hany, if_true]
      rfl
  | @openLiteral c rest hplain hquote =>
      simp only [Scan.step, stepCode_of_noComment hplain]
      have hor : c ∈ d.quotes ∨ c ∈ d.multilineQuotes := by
        simpa [Delimiters.isQuote] using hquote
      by_cases hq : c ∈ d.quotes
      · simp [hq]
      · simp [hq, hor.resolve_left hq]
  | @copyCode c rest hplain hquote =>
      have hnot : c ∉ d.quotes ∧ c ∉ d.multilineQuotes := by
        simpa [Delimiters.isQuote] using hquote
      simp [Scan.step, stepCode_of_noComment hplain, hnot.1, hnot.2]
  | endLine => simp [Scan.step, Scan.stepLine]
  | dropLine hc => simp [Scan.step, Scan.stepLine, hc]
  | @closeBlock closer _ hne =>
      obtain ⟨c, rest', htext⟩ := List.exists_cons_of_ne_nil hne
      simp only [Scan.step, htext, Scan.stepBlock]
      rw [← htext, if_pos (List.isPrefixOf_iff_prefix.2 (List.prefix_append closer _))]
      simp
  | breakBlock hopen => simp [Scan.step, Scan.stepBlock, isPrefixOf_eq_false hopen]
  | dropBlock hopen hc => simp [Scan.step, Scan.stepBlock, isPrefixOf_eq_false hopen, hc]
  | escape => simp [Scan.step, Scan.stepLiteral]
  | escapeEnd => simp [Scan.step, Scan.stepLiteral]
  | endLiteral hc hend =>
      simp only [Scan.step, Scan.stepLiteral, if_neg hc]
      rw [if_pos (by simpa using hend)]
      rfl
  | copyLiteral hc hgo =>
      simp only [Scan.step, Scan.stepLiteral, if_neg hc]
      rw [if_neg (by simpa using hgo)]
      rfl

/-- Whatever stands ahead, the scanner has a move. -/
theorem exists_move (region : Region) (hne : text ≠ []) :
    ∃ out region' text', Move d region text out region' text' := by
  obtain ⟨c, rest, rfl⟩ := List.exists_cons_of_ne_nil hne
  cases region with
  | code =>
      cases hfind : d.block.find? (fun pair => pair.1.isPrefixOf (c :: rest)) with
      | some pair =>
          obtain ⟨opener, closer⟩ := pair
          have hopener : opener.isPrefixOf (c :: rest) = true := by
            simpa only using List.find?_some hfind
          obtain ⟨rest', hrest⟩ := List.isPrefixOf_iff_prefix.1 hopener
          rw [← hrest] at hfind hne ⊢
          exact ⟨_, _, _, .openBlock hne hfind⟩
      | none =>
          have hblock : ∀ pair ∈ d.block, ¬ pair.1 <+: c :: rest := by
            intro pair hpair hprefix
            exact List.find?_eq_none.1 hfind pair hpair (List.isPrefixOf_iff_prefix.2 hprefix)
          by_cases hline : ∃ marker ∈ d.line, marker <+: c :: rest
          · exact ⟨_, _, _, .openLine hblock hline⟩
          · have hplain : d.NoComment (c :: rest) :=
              ⟨hblock, fun marker hmarker hprefix => hline ⟨marker, hmarker, hprefix⟩⟩
            cases hquote : d.isQuote c with
            | true => exact ⟨_, _, _, .openLiteral hplain hquote⟩
            | false => exact ⟨_, _, _, .copyCode hplain hquote⟩
  | lineComment =>
      by_cases hc : c = '\n'
      · subst hc
        exact ⟨_, _, _, .endLine⟩
      · exact ⟨_, _, _, .dropLine hc⟩
  | blockComment closer =>
      by_cases hclose : closer <+: c :: rest
      · obtain ⟨rest', hrest⟩ := hclose
        rw [← hrest] at hne ⊢
        exact ⟨_, _, _, .closeBlock hne⟩
      · by_cases hc : c = '\n'
        · subst hc
          exact ⟨_, _, _, .breakBlock hclose⟩
        · exact ⟨_, _, _, .dropBlock hclose hc⟩
  | literal quote multiline =>
      by_cases hc : c = '\\'
      · subst hc
        cases rest with
        | nil => exact ⟨_, _, _, .escapeEnd⟩
        | cons e rest => exact ⟨_, _, _, .escape⟩
      · by_cases hend : c = quote ∨ c = '\n' ∧ multiline = false
        · exact ⟨_, _, _, .endLiteral hc hend⟩
        · exact ⟨_, _, _, .copyLiteral hc hend⟩

/-! ## Every scan comes to an end -/

/-- What a region may still cost beyond the text ahead.  A block comment whose closing delimiter is
empty is left without reading anything, so it has to cost more than program text. -/
def Region.weight : Region → Nat
  | .code => 1
  | .blockComment [] => 2
  | _ => 0

/-- A bound on the number of steps that are left. -/
def potential (region : Region) (text : List Char) : Nat := 2 * text.length + region.weight

theorem Region.weight_le_two (region : Region) : region.weight ≤ 2 := by
  cases region with
  | blockComment closer => cases closer <;> simp [weight]
  | _ => simp [weight]

@[simp] theorem weight_code : Region.code.weight = 1 := rfl

@[simp] theorem weight_line : Region.lineComment.weight = 0 := rfl

@[simp] theorem weight_literal (quote : Char) (multiline : Bool) :
    (Region.literal quote multiline).weight = 0 := rfl

@[simp] theorem weight_block_nil : (Region.blockComment []).weight = 2 := rfl

theorem weight_block_of_ne_nil {closer : List Char} (h : closer ≠ []) :
    (Region.blockComment closer).weight = 0 := by
  obtain ⟨c, rest, rfl⟩ := List.exists_cons_of_ne_nil h
  rfl

/-- Every move brings the end of the scan nearer. -/
theorem Move.potential_lt (hd : d.Productive) (h : Move d region text out region' text') :
    potential region' text' < potential region text := by
  cases h with
  | @openBlock opener closer _ hne hfind =>
      have hpair := hd _ (List.mem_of_find?_eq_some hfind)
      simp only [potential, List.length_append, weight_code]
      by_cases hcloser : closer = []
      · have hpos : 0 < opener.length :=
          List.length_pos_iff.2 (hpair.resolve_right fun h => h hcloser)
        rw [hcloser, weight_block_nil]
        omega
      · rw [weight_block_of_ne_nil hcloser]
        omega
  | @closeBlock closer _ hne =>
      simp only [potential, List.length_append, weight_code]
      by_cases hcloser : closer = []
      · rw [hcloser, weight_block_nil]
        omega
      · have hpos : 0 < closer.length := List.length_pos_iff.2 hcloser
        omega
  | _ =>
      simp only [potential, List.length_cons, List.length_nil, weight_code, weight_line,
        weight_literal]
      omega

theorem run_of_rest_nil {s : Scan} (h : s.rest = []) (n : Nat) : s.run d n = s := by
  cases n with
  | zero => rfl
  | succ n => simp [Scan.run, h]

/-- A run goes on with the text that is left after a move. -/
theorem run_move (h : Move d region text out region' text') (n : Nat) (written : List Char) :
    Scan.run d (n + 1) ⟨region, text, written⟩ =
      Scan.run d n ⟨region', text', out.reverse ++ written⟩ := by
  have hne : text.isEmpty = false := List.isEmpty_eq_false_iff.2 h.ne_nil
  rw [Scan.run, step_of_move h]
  simp only [hne, Bool.false_eq_true, if_false]

/-- As many steps as the potential allows lead to the end of the text. -/
theorem run_reaches_end (hd : d.Productive) (n : Nat) :
    ∀ (region : Region) (text written : List Char), potential region text ≤ n + 1 →
      (Scan.run d n ⟨region, text, written⟩).rest = [] := by
  induction n with
  | zero =>
      intro region text written h
      have hlength : text.length = 0 := by
        rw [potential] at h
        omega
      exact List.eq_nil_of_length_eq_zero hlength
  | succ n ih =>
      intro region text written h
      by_cases hne : text = []
      · subst hne
        rw [run_of_rest_nil rfl]
      · obtain ⟨out, region', text', hmove⟩ := exists_move (d := d) region hne
        rw [run_move hmove]
        have hlt := hmove.potential_lt hd
        exact ih region' text' _ (by omega)

/-- More steps change nothing after the end of the text. -/
theorem run_add_of_end {s : Scan} {m : Nat} (h : (s.run d m).rest = []) (n : Nat) :
    s.run d (m + n) = s.run d m := by
  induction m generalizing s with
  | zero =>
      have hrest : s.rest = [] := h
      rw [run_of_rest_nil hrest, run_of_rest_nil hrest]
  | succ m ih =>
      by_cases hs : s.rest.isEmpty = true
      · have hrest : s.rest = [] := List.isEmpty_iff.1 hs
        rw [run_of_rest_nil hrest, run_of_rest_nil hrest]
      · rw [Scan.run, if_neg hs] at h
        rw [show m + 1 + n = (m + n) + 1 by omega, Scan.run, Scan.run, if_neg hs, if_neg hs, ih h]

/-- All numbers of steps that the potential allows lead to the same end. -/
theorem run_eq_run (hd : d.Productive) {m n : Nat} (written : List Char)
    (hm : potential region text ≤ m + 1) (hn : potential region text ≤ n + 1) :
    Scan.run d m ⟨region, text, written⟩ = Scan.run d n ⟨region, text, written⟩ := by
  have h₁ := run_add_of_end (run_reaches_end hd m region text written hm) n
  have h₂ := run_add_of_end (run_reaches_end hd n region text written hn) m
  rw [← h₁, ← h₂, Nat.add_comm]

/-! ## Whole scans -/

/-- The end of the scan of a text from a region on, with nothing written before. -/
def complete (d : Delimiters) (region : Region) (text : List Char) : Scan :=
  Scan.run d (2 * text.length + 2) ⟨region, text, []⟩

/-- What the scan of a text from a region on writes. -/
def emitted (d : Delimiters) (region : Region) (text : List Char) : List Char :=
  (complete d region text).written.reverse

/-- Where the scan of a text from a region on ends. -/
def lastRegion (d : Delimiters) (region : Region) (text : List Char) : Region :=
  (complete d region text).region

theorem potential_le (region : Region) (text : List Char) :
    potential region text ≤ 2 * text.length + 2 := by
  have h := region.weight_le_two
  rw [potential]
  omega

/-- What was written before has no influence on a run. -/
theorem run_written (n : Nat) :
    ∀ (region : Region) (text written : List Char), Scan.run d n ⟨region, text, written⟩ =
      { Scan.run d n ⟨region, text, []⟩ with
        written := (Scan.run d n ⟨region, text, []⟩).written ++ written } := by
  induction n with
  | zero => intro region text written; rfl
  | succ n ih =>
      intro region text written
      by_cases hne : text = []
      · subst hne
        rw [run_of_rest_nil rfl, run_of_rest_nil rfl]
        rfl
      · obtain ⟨out, region', text', hmove⟩ := exists_move (d := d) region hne
        rw [run_move hmove, run_move hmove, ih, ih region' text' (out.reverse ++ [])]
        simp

theorem complete_move (hd : d.Productive) (h : Move d region text out region' text') :
    complete d region text =
      { complete d region' text' with
        written := (complete d region' text').written ++ out.reverse } := by
  have hlt := h.potential_lt hd
  have hle := potential_le region text
  rw [complete, run_move h, run_eq_run hd _ (by omega : _ ≤ 2 * text.length + 1 + 1)
    (Nat.le_succ_of_le (potential_le region' text')), run_written]
  simp [complete]

@[simp] theorem emitted_nil (region : Region) : emitted d region [] = [] := by
  rw [emitted, complete, run_of_rest_nil rfl]
  rfl

@[simp] theorem lastRegion_nil (region : Region) : lastRegion d region [] = region := by
  rw [lastRegion, complete, run_of_rest_nil rfl]

/-- A scan writes what its first move writes, and then the rest. -/
theorem emitted_move (hd : d.Productive) (h : Move d region text out region' text') :
    emitted d region text = out ++ emitted d region' text' := by
  rw [emitted, complete_move hd h]
  simp [emitted]

theorem lastRegion_move (hd : d.Productive) (h : Move d region text out region' text') :
    lastRegion d region text = lastRegion d region' text' := by
  rw [lastRegion, complete_move hd h]
  rfl

/-- **Induction along a scan.**  What holds at the end of the text, and holds before a move if it
holds after it, holds everywhere. -/
theorem move_induction (hd : d.Productive) {P : Region → List Char → Prop}
    (nil : ∀ region, P region [])
    (move : ∀ region text out region' text', Move d region text out region' text' →
      P region' text' → P region text) (region : Region) (text : List Char) : P region text := by
  induction hn : potential region text using Nat.strongRecOn generalizing region text with
  | _ n ih =>
      by_cases hne : text = []
      · subst hne
        exact nil region
      · obtain ⟨out, region', text', hmove⟩ := exists_move (d := d) region hne
        have hlt := hmove.potential_lt hd
        exact move _ _ _ _ _ hmove (ih _ (by omega) region' text' rfl)

/-- The bounded scan of a whole text is complete. -/
theorem scan_eq_complete (hd : d.Productive) (text : List Char) :
    scan d text = complete d .code text :=
  run_eq_run hd [] (by simp [potential]) (Nat.le_succ_of_le (potential_le .code text))

theorem strip_eq_emitted (hd : d.Productive) (text : List Char) :
    strip d text = emitted d .code text := by
  rw [strip, scan_eq_complete hd]
  rfl

end Comment
end SourceAtlas
