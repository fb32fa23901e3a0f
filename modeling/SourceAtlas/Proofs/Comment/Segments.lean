import SourceAtlas.Proofs.Comment.Seam

/-!
# Segments of a scan

Wherever the scanner comes to stand in program text, its scan falls into two scans that know nothing
of each other.  Delimiters are recognised by looking ahead, and what is seen ahead may reach beyond
such a place; but then the scanner does not come to stand there: an opener, a closer or an escaped
character that reaches beyond the place is read as a whole, and a line comment lasts to its line
break.

* `Passage` — moves one after another; the runs of the scanner are exactly the passages.
* `DividesAt` — the scanner comes to stand in program text between two parts of a text.
* `Passage.emitted_eq` — up to there it has written what it writes for the first part alone.
* `IsBlockComment`, `IsLineComment`, `IsLiteral` — what may stand behind such a place, and the
  passages over it.
* `strip_segments` — the main result.
-/

namespace SourceAtlas

namespace Delimiters

/-- No delimiter of a comment is empty or contains a line break. -/
structure Solid (d : Delimiters) : Prop where
  opener : ∀ pair ∈ d.block, pair.1 ≠ [] ∧ '\n' ∉ pair.1
  closer : ∀ pair ∈ d.block, pair.2 ≠ [] ∧ '\n' ∉ pair.2
  marker : ∀ mark ∈ d.line, mark ≠ [] ∧ '\n' ∉ mark

theorem Solid.productive {d : Delimiters} (h : d.Solid) : d.Productive :=
  fun pair hpair => Or.inl (h.opener pair hpair).1

theorem NoComment.of_append {d : Delimiters} {text later : List Char}
    (h : d.NoComment (text ++ later)) : d.NoComment text := by
  refine ⟨?_, ?_⟩
  · intro pair hpair hfits
    exact h.1 pair hpair (hfits.trans (List.prefix_append text later))
  · intro marker hmarker hfits
    exact h.2 marker hmarker (hfits.trans (List.prefix_append text later))

end Delimiters

namespace Comment

variable {d : Delimiters} {region region' region'' : Region}
variable {text text' text'' out out' before after : List Char}

/-! ## Passages -/

/-- Moves one after another, with all that they write. -/
inductive Passage (d : Delimiters) :
    Region → List Char → List Char → Region → List Char → Prop where
  /-- No move at all. -/
  | stay {region : Region} {text : List Char} : Passage d region text [] region text
  /-- A move, and then others. -/
  | move {region region' region'' : Region} {text text' text'' out out' : List Char}
      (first : Move d region text out region' text')
      (others : Passage d region' text' out' region'' text'') :
      Passage d region text (out ++ out') region'' text''

theorem Move.passage (h : Move d region text out region' text') :
    Passage d region text out region' text' := by
  have hpassage := Passage.move h .stay
  rwa [List.append_nil] at hpassage

theorem Passage.trans (h : Passage d region text out region' text')
    (h' : Passage d region' text' out' region'' text'') :
    Passage d region text (out ++ out') region'' text'' := by
  induction h with
  | stay => exact h'
  | move first _ ih =>
      rw [List.append_assoc]
      exact .move first (ih h')

theorem Passage.suffix (h : Passage d region text out region' text') : text' <:+ text := by
  induction h with
  | stay => exact List.suffix_rfl
  | move first _ ih => exact ih.trans first.suffix

/-- A scan writes what is written on a passage, and then the rest. -/
theorem emitted_passage (hd : d.Productive) (h : Passage d region text out region' text') :
    emitted d region text = out ++ emitted d region' text' := by
  induction h with
  | stay => rfl
  | move first _ ih => rw [emitted_move hd first, ih, List.append_assoc]

/-- No passage leads further away from the end. -/
theorem Passage.potential_le (hd : d.Productive) (h : Passage d region text out region' text') :
    potential region' text' ≤ potential region text := by
  induction h with
  | stay => exact Nat.le_refl _
  | move first _ ih => exact ih.trans (first.potential_lt hd).le

/-- Whatever a run does is a passage. -/
theorem passage_of_run (n : Nat) : ∀ (region : Region) (text written : List Char),
    ∃ out, Passage d region text out (Scan.run d n ⟨region, text, written⟩).region
        (Scan.run d n ⟨region, text, written⟩).rest := by
  induction n with
  | zero => exact fun region text written => ⟨[], .stay⟩
  | succ n ih =>
      intro region text written
      by_cases hne : text = []
      · subst hne
        rw [run_of_rest_nil rfl]
        exact ⟨[], .stay⟩
      · obtain ⟨out, region', text', hmove⟩ := exists_move (d := d) region hne
        obtain ⟨out', hrest⟩ := ih region' text' (out.reverse ++ written)
        rw [run_move hmove]
        exact ⟨out ++ out', .move hmove hrest⟩

/-- Every passage is the beginning of a run. -/
theorem Passage.exists_run (h : Passage d region text out region' text') :
    ∀ written, ∃ n, Scan.run d n ⟨region, text, written⟩ =
      ⟨region', text', out.reverse ++ written⟩ := by
  induction h with
  | stay => exact fun written => ⟨0, rfl⟩
  | @move _ _ _ _ _ _ out out' first _ ih =>
      intro written
      obtain ⟨n, hn⟩ := ih (out.reverse ++ written)
      refine ⟨n + 1, ?_⟩
      rw [run_move first, hn, List.reverse_append, List.append_assoc]

/-! ## Places in program text -/

/-- While scanning `before ++ after`, the scanner comes to stand in program text between the two. -/
def DividesAt (d : Delimiters) (before after : List Char) : Prop :=
  ∃ n, ((Scan.start (before ++ after)).run d n).region = .code ∧
    ((Scan.start (before ++ after)).run d n).rest = after

theorem dividesAt_iff :
    DividesAt d before after ↔ ∃ out, Passage d .code (before ++ after) out .code after := by
  constructor
  · rintro ⟨n, hregion, hrest⟩
    obtain ⟨out, hpassage⟩ := passage_of_run (d := d) n .code (before ++ after) []
    rw [Scan.start] at hregion hrest
    rw [hregion, hrest] at hpassage
    exact ⟨out, hpassage⟩
  · rintro ⟨out, hpassage⟩
    obtain ⟨n, hn⟩ := hpassage.exists_run []
    refine ⟨n, ?_⟩
    rw [Scan.start, hn]
    exact ⟨rfl, rfl⟩

/-- A line comment is left behind its line break only. -/
theorem Passage.break_mem (h : Passage d .lineComment text out .code after) :
    ∃ comment rest, text = comment ++ '\n' :: rest ∧ after <:+ rest := by
  generalize hregion : Region.lineComment = region at h
  generalize hlast : Region.code = region' at h
  induction h with
  | stay => cases hregion.trans hlast.symm
  | move first others ih =>
      subst hregion
      cases first with
      | endLine => exact ⟨[], _, rfl, others.suffix⟩
      | @dropLine c rest hc =>
          obtain ⟨comment, rest', rfl, hsuffix⟩ := ih rfl hlast
          exact ⟨c :: comment, rest', rfl, hsuffix⟩

/-- The first opener that fits in front of a text is the first one also if less of the text is
known, as long as it fits there. -/
theorem find?_opener_of_append {opener closer rest later : List Char}
    (h : d.block.find? (fun pair => pair.1.isPrefixOf (opener ++ rest ++ later)) =
      some (opener, closer)) :
    d.block.find? (fun pair => pair.1.isPrefixOf (opener ++ rest)) = some (opener, closer) := by
  rw [List.find?_eq_some_iff_append] at h ⊢
  obtain ⟨-, earlier, others, hblock, hnone⟩ := h
  refine ⟨List.isPrefixOf_iff_prefix.2 (List.prefix_append opener rest), earlier, others, hblock,
    ?_⟩
  intro pair hpair
  have hnot := hnone pair hpair
  rw [Bool.not_eq_true', ← Bool.not_eq_true, List.isPrefixOf_iff_prefix] at hnot ⊢
  exact fun hfits => hnot (hfits.trans (List.prefix_append _ later))

/-- The first move of a passage over a text can be made also if nothing follows the text. -/
theorem Move.of_append (hline : ∀ mark ∈ d.line, '\n' ∉ mark) (hne : before ≠ [])
    (h : Move d region (before ++ after) out region' (text' ++ after))
    (hothers : Passage d region' (text' ++ after) out' .code after) :
    Move d region before out region' text' := by
  generalize hwhole : before ++ after = whole at h
  generalize hrest : text' ++ after = rest at h
  cases h with
  | @openBlock opener closer _ _ hfind =>
      rw [← hrest, ← List.append_assoc] at hwhole hfind
      obtain rfl : before = opener ++ text' := List.append_cancel_right hwhole
      exact .openBlock hne (find?_opener_of_append hfind)
  | @openLine c rest hblock hmark =>
      obtain rfl : before = text' := List.append_cancel_right (hwhole.trans hrest.symm)
      obtain ⟨c', before', rfl⟩ := List.exists_cons_of_ne_nil hne
      -- The line break that ends the comment stands in front of `after`, so the marker does, too.
      obtain ⟨comment, rest', hcomment, later, rfl⟩ := hothers.break_mem
      have hbefore : c' :: before' = comment ++ '\n' :: later := by
        refine List.append_cancel_right (hcomment.trans ?_)
        rw [List.append_assoc, List.cons_append]
      rw [← hwhole] at hblock hmark
      refine .openLine ?_ ?_
      · intro pair hpair hfits
        exact hblock pair hpair (hfits.trans (List.prefix_append _ after))
      · obtain ⟨mark, hmem, hfits⟩ := hmark
        rw [hcomment, prefix_append_break_iff (hline mark hmem)] at hfits
        refine ⟨mark, hmem, hfits.trans ?_⟩
        rw [hbefore]
        exact List.prefix_append comment _
  | @closeBlock closer _ _ =>
      rw [← hrest, ← List.append_assoc] at hwhole
      obtain rfl : before = closer ++ text' := List.append_cancel_right hwhole
      exact .closeBlock hne
  | @escape _ _ e _ =>
      subst hrest
      obtain rfl : before = '\\' :: e :: text' := List.append_cancel_right hwhole
      exact .escape
  | escapeEnd =>
      obtain ⟨rfl, rfl⟩ := List.append_eq_nil_iff.1 hrest
      rw [List.append_nil] at hwhole
      subst hwhole
      exact .escapeEnd
  | @openLiteral c _ hplain hquote =>
      subst hrest
      obtain rfl : before = c :: text' := List.append_cancel_right hwhole
      exact .openLiteral hplain.of_append hquote
  | @copyCode c _ hplain hquote =>
      subst hrest
      obtain rfl : before = c :: text' := List.append_cancel_right hwhole
      exact .copyCode hplain.of_append hquote
  | endLine =>
      subst hrest
      obtain rfl : before = '\n' :: text' := List.append_cancel_right hwhole
      exact .endLine
  | @dropLine c _ hc =>
      subst hrest
      obtain rfl : before = c :: text' := List.append_cancel_right hwhole
      exact .dropLine hc
  | breakBlock hopen =>
      subst hrest
      obtain rfl : before = '\n' :: text' := List.append_cancel_right hwhole
      exact .breakBlock fun hfits => hopen (hfits.trans (List.prefix_append _ after))
  | @dropBlock _ c _ hopen hc =>
      subst hrest
      obtain rfl : before = c :: text' := List.append_cancel_right hwhole
      exact .dropBlock (fun hfits => hopen (hfits.trans (List.prefix_append _ after))) hc
  | @endLiteral _ _ c _ hc hend =>
      subst hrest
      obtain rfl : before = c :: text' := List.append_cancel_right hwhole
      exact .endLiteral hc hend
  | @copyLiteral _ _ c _ hc hgo =>
      subst hrest
      obtain rfl : before = c :: text' := List.append_cancel_right hwhole
      exact .copyLiteral hc hgo

/-- A move into program text that reads nothing writes nothing: it leaves a block comment whose
closing delimiter is empty. -/
theorem Move.eq_nil_of_length_le (h : Move d region text out .code text')
    (hlength : text.length ≤ text'.length) : out = [] := by
  cases h with
  | closeBlock => rfl
  | _ => exact absurd hlength (Nat.not_succ_le_self _)

/-- A passage into program text that reads nothing writes nothing. -/
theorem Passage.eq_nil_of_length_le (hd : d.Productive) (h : Passage d region text out .code text')
    (hlength : text.length ≤ text'.length) : out = [] := by
  cases h with
  | stay => rfl
  | @move _ region' _ _ _ _ _ _ first others =>
      have hfirst := first.suffix.length_le
      have hothers := others.suffix.length_le
      cases others with
      | stay => rw [first.eq_nil_of_length_le hlength, List.append_nil]
      | move second third =>
          -- Two moves that read nothing have no room in the potential.
          have hsecond := second.potential_lt hd
          have hthird := third.potential_le hd
          have hweight := first.potential_lt hd
          have htwo := region.weight_le_two
          simp only [potential, weight_code] at hsecond hthird hweight
          omega

/-- **Up to a place in program text, a scan has written what it writes for the text before that
place alone.** -/
theorem Passage.emitted_eq (hd : d.Productive) (hline : ∀ mark ∈ d.line, '\n' ∉ mark)
    (h : Passage d region (before ++ after) out .code after) : emitted d region before = out := by
  generalize hwhole : before ++ after = whole at h
  generalize hlast : Region.code = last at h
  generalize hafter : after = rest at h
  induction h generalizing before with
  | stay =>
      subst hafter
      obtain rfl : before = [] := List.append_cancel_right hwhole
      rw [emitted_nil]
  | @move region region' _ text text' _ out out' first others ih =>
      subst hlast hafter
      obtain ⟨before', rfl⟩ := others.suffix
      by_cases hne : before = []
      · subst hne
        rw [emitted_nil]
        have hpassage := Passage.move first others
        exact (hpassage.eq_nil_of_length_le hd (by rw [← hwhole]; simp)).symm
      · subst hwhole
        have hmove := first.of_append hline hne others
        rw [emitted_move hd hmove, ih rfl rfl rfl]

/-- The scan of a text divides wherever the scanner comes to stand in program text. -/
theorem strip_append_of_dividesAt (hd : d.Solid) (h : DividesAt d before after) :
    strip d (before ++ after) = strip d before ++ strip d after := by
  obtain ⟨out, hpassage⟩ := dividesAt_iff.1 h
  have hline : ∀ mark ∈ d.line, '\n' ∉ mark := fun mark hmark => (hd.marker mark hmark).2
  simp only [strip_eq_emitted hd.productive]
  rw [emitted_passage hd.productive hpassage, hpassage.emitted_eq hd.productive hline]

/-- A passage from such a place leads to the next one. -/
theorem strip_append_of_passage {segment later : List Char} (hd : d.Solid)
    (h : DividesAt d before (segment ++ later))
    (hpassage : Passage d .code (segment ++ later) out .code later) :
    strip d (before ++ (segment ++ later)) = strip d before ++ out ++ strip d later ∧
      DividesAt d (before ++ segment) later := by
  refine ⟨?_, ?_⟩
  · rw [strip_append_of_dividesAt hd h, List.append_assoc, strip_eq_emitted hd.productive (_ ++ _),
      strip_eq_emitted hd.productive later, emitted_passage hd.productive hpassage]
  · obtain ⟨out', hbefore⟩ := dividesAt_iff.1 h
    rw [dividesAt_iff, List.append_assoc]
    exact ⟨out' ++ out, hbefore.trans hpassage⟩

/-! ## Block comments -/

/-- In front of `later` stands a complete block comment: `opener` is the first listed opener that
fits, and behind it `closer` stands for the first time behind `body`. -/
structure IsBlockComment (d : Delimiters) (opener body closer later : List Char) : Prop where
  opens : d.block.find? (fun pair => pair.1.isPrefixOf (opener ++ body ++ closer ++ later)) =
    some (opener, closer)
  closes : ∀ i < body.length, ¬ closer <+: (body ++ closer).drop i

/-- Of the body of a block comment only the line breaks are left. -/
theorem passage_blockBody {closer : List Char} (hcloser : closer ≠ []) (later : List Char) :
    ∀ body : List Char, (∀ i < body.length, ¬ closer <+: (body ++ closer).drop i) →
      Passage d (.blockComment closer) (body ++ closer ++ later)
        (List.replicate (body.count '\n') '\n') .code later := by
  intro body
  induction body with
  | nil =>
      intro _
      have hclose : Move d (.blockComment closer) (closer ++ later) [] .code later :=
        .closeBlock (by simp [hcloser])
      exact hclose.passage
  | cons c body ih =>
      intro hcloses
      have hrest := ih fun i hi => hcloses (i + 1) (Nat.succ_lt_succ hi)
      have hopen : ¬ closer <+: c :: (body ++ closer ++ later) := by
        intro hfits
        refine hcloses 0 (Nat.succ_pos _) ?_
        refine List.prefix_of_prefix_length_le hfits (List.prefix_append _ later) ?_
        simp only [List.drop_zero, List.length_append]
        exact Nat.le_add_left _ _
      by_cases hc : c = '\n'
      · subst hc
        rw [List.count_cons_self, List.replicate_succ]
        exact .move (.breakBlock hopen) hrest
      · rw [List.count_cons_of_ne hc]
        exact .move (.dropBlock hopen hc) hrest

theorem IsBlockComment.passage {opener body closer later : List Char} (hd : d.Solid)
    (h : IsBlockComment d opener body closer later) :
    Passage d .code (opener ++ body ++ closer ++ later)
      (' ' :: List.replicate (body.count '\n') '\n') .code later := by
  have hpair := List.mem_of_find?_eq_some h.opens
  have hopener := (hd.opener _ hpair).1
  have hopens := h.opens
  simp only [List.append_assoc] at hopens ⊢
  have hbody := passage_blockBody (d := d) (hd.closer _ hpair).1 later body h.closes
  rw [List.append_assoc] at hbody
  exact .move (.openBlock (by simp [hopener]) hopens) hbody

/-! ## Line comments -/

/-- In front of `later` stands the rest of a line that is commented out: no block comment opens
there, and a line marker fits. -/
structure IsLineComment (d : Delimiters) (comment later : List Char) : Prop where
  unbroken : '\n' ∉ comment
  noBlock : ∀ pair ∈ d.block, ¬ pair.1 <+: comment ++ later
  marked : ∃ mark ∈ d.line, mark <+: comment ++ later

/-- Nothing is left of a line comment. -/
theorem passage_lineBody (later : List Char) : ∀ comment : List Char, '\n' ∉ comment →
    Passage d .lineComment (comment ++ later) [] .lineComment later := by
  intro comment
  induction comment with
  | nil => exact fun _ => .stay
  | cons c comment ih =>
      intro hbreak
      have hc : c ≠ '\n' := fun hc => hbreak (hc ▸ List.mem_cons_self ..)
      exact .move (.dropLine hc) (ih (List.not_mem_of_not_mem_cons hbreak))

theorem IsLineComment.passage {comment later : List Char} (hne : comment ++ later ≠ [])
    (h : IsLineComment d comment later) :
    Passage d .code (comment ++ later) [] .lineComment later := by
  obtain ⟨c, rest, htext⟩ := List.exists_cons_of_ne_nil hne
  have hopen : Move d .code (comment ++ later) [] .lineComment (comment ++ later) := by
    have hnoBlock := h.noBlock
    have hmarked := h.marked
    rw [htext] at hnoBlock hmarked ⊢
    exact .openLine hnoBlock hmarked
  exact .move hopen (passage_lineBody later comment h.unbroken)

/-! ## String literals -/

/-- The inside of a string literal: characters that do not end it, and escaped characters. -/
inductive LiteralBody (quote : Char) (multiline : Bool) : List Char → Prop where
  | nil : LiteralBody quote multiline []
  | plain {c : Char} {rest : List Char} (hc : c ≠ '\\') (hquote : c ≠ quote)
      (hbreak : c = '\n' → multiline = true) (hrest : LiteralBody quote multiline rest) :
      LiteralBody quote multiline (c :: rest)
  | escaped {e : Char} {rest : List Char} (hrest : LiteralBody quote multiline rest) :
      LiteralBody quote multiline ('\\' :: e :: rest)

/-- In front of `later` stands a complete string literal, at a place where no comment begins. -/
structure IsLiteral (d : Delimiters) (quote : Char) (body later : List Char) : Prop where
  isQuote : d.isQuote quote = true
  ne_backslash : quote ≠ '\\'
  noComment : d.NoComment (quote :: body ++ quote :: later)
  inside : LiteralBody quote (!d.quotes.contains quote) body

theorem LiteralBody.passage {quote : Char} {multiline : Bool} {body : List Char}
    (h : LiteralBody quote multiline body) (hquote : quote ≠ '\\') (later : List Char) :
    Passage d (.literal quote multiline) (body ++ quote :: later) (body ++ [quote]) .code
      later := by
  induction h with
  | nil =>
      have hend : Move d (.literal quote multiline) (quote :: later) [quote] .code later :=
        .endLiteral hquote (Or.inl rfl)
      exact hend.passage
  | @plain c rest hc hne hbreak _ ih =>
      have hgo : ¬ (c = quote ∨ c = '\n' ∧ multiline = false) := by
        rintro (hc' | ⟨hc', hmultiline⟩)
        · exact hne hc'
        · exact Bool.false_ne_true (hmultiline.symm.trans (hbreak hc'))
      have hpassage := Passage.move (.copyLiteral hc hgo) ih
      exact hpassage
  | @escaped e _ _ ih =>
      have hpassage := Passage.move (.escape (e := e)) ih
      exact hpassage

theorem IsLiteral.passage {quote : Char} {body later : List Char}
    (h : IsLiteral d quote body later) :
    Passage d .code (quote :: body ++ quote :: later) (quote :: body ++ [quote]) .code later := by
  have hinside := h.inside.passage (d := d) h.ne_backslash later
  have hpassage := Passage.move (.openLiteral h.noComment h.isQuote) hinside
  exact hpassage

/-! ## The segments of a text -/

/-- **A scan falls into segments.**  Let no delimiter be empty or contain a line break.  If the
scanner comes to stand in program text behind `before`, it strips what stands before and what stands
after separately.  From there, a complete block comment leaves a space and the line breaks of its
body; a line comment leaves nothing, up to its line break or to the end of the text; a complete
string literal is copied; and behind each of them the scanner stands in program text again. -/
theorem strip_segments {d : Delimiters} (hd : d.Solid) (before later : List Char) :
    (DividesAt d before later → strip d (before ++ later) = strip d before ++ strip d later) ∧
    (∀ opener body closer, IsBlockComment d opener body closer later →
      DividesAt d before (opener ++ body ++ closer ++ later) →
        strip d (before ++ (opener ++ body ++ closer ++ later)) =
            strip d before ++ (' ' :: List.replicate (body.count '\n') '\n') ++ strip d later ∧
          DividesAt d (before ++ (opener ++ body ++ closer)) later) ∧
    (∀ comment, IsLineComment d comment ('\n' :: later) →
      DividesAt d before (comment ++ '\n' :: later) →
        strip d (before ++ (comment ++ '\n' :: later)) =
            strip d before ++ ['\n'] ++ strip d later ∧
          DividesAt d (before ++ (comment ++ ['\n'])) later) ∧
    (∀ comment, IsLineComment d comment [] → DividesAt d before comment →
      strip d (before ++ comment) = strip d before) ∧
    (∀ quote body, IsLiteral d quote body later →
      DividesAt d before (quote :: body ++ quote :: later) →
        strip d (before ++ (quote :: body ++ quote :: later)) =
            strip d before ++ (quote :: body ++ [quote]) ++ strip d later ∧
          DividesAt d (before ++ (quote :: body ++ [quote])) later) := by
  refine ⟨strip_append_of_dividesAt hd, ?_, ?_, ?_, ?_⟩
  · intro opener body closer hcomment hdivides
    exact strip_append_of_passage hd hdivides (hcomment.passage hd)
  · intro comment hcomment hdivides
    have hpassage := (hcomment.passage (by simp)).trans (Move.passage .endLine)
    rw [List.append_cons] at hdivides hpassage ⊢
    exact strip_append_of_passage hd hdivides hpassage
  · intro comment hcomment hdivides
    rw [strip_append_of_dividesAt hd hdivides, strip_eq_emitted hd.productive comment]
    by_cases hne : comment = []
    · rw [hne, emitted_nil, List.append_nil]
    · have hpassage := hcomment.passage (by simpa using hne)
      rw [List.append_nil] at hpassage
      rw [emitted_passage hd.productive hpassage, emitted_nil, List.append_nil, List.append_nil]
  · intro quote body hliteral hdivides
    have hpassage := hliteral.passage
    rw [List.append_cons] at hdivides hpassage ⊢
    exact strip_append_of_passage hd hdivides hpassage

/-- A text with a literal, a block comment and a line comment, one right behind the other. -/
def threeSegments : List Char := "u = \"//\\\"\"/**\n/*/// z\nv".toList

/-- The literal holds a comment marker and an escaped quote, and the body of the block comment the
characters of its closer. -/
theorem strip_segments_three :
    Delimiters.slashStyle.Solid ∧
      strip .slashStyle threeSegments =
        strip .slashStyle "u = ".toList ++ "\"//\\\"\"".toList ++
          strip .slashStyle "/**\n/*/// z\nv".toList ∧
      strip .slashStyle threeSegments =
        strip .slashStyle "u = \"//\\\"\"".toList ++ " \n".toList ++
          strip .slashStyle "// z\nv".toList ∧
      strip .slashStyle threeSegments =
        strip .slashStyle "u = \"//\\\"\"/**\n/*/".toList ++ "\n".toList ++
          strip .slashStyle "v".toList := by
  have hd : Delimiters.slashStyle.Solid := ⟨by decide, by decide, by decide⟩
  have hliteral : IsLiteral .slashStyle '"' "//\\\"".toList "/**\n/*/// z\nv".toList :=
    ⟨by decide, by decide, ⟨by decide, by decide⟩,
      .plain (by decide) (by decide) (by decide)
        (.plain (by decide) (by decide) (by decide) (.escaped .nil))⟩
  have hblock : IsBlockComment .slashStyle "/*".toList "*\n/".toList "*/".toList
      "// z\nv".toList := ⟨by decide, by decide⟩
  have hline : IsLineComment .slashStyle "// z".toList "\nv".toList :=
    ⟨by decide, by decide, by decide⟩
  have hstart : DividesAt .slashStyle "u = ".toList "\"//\\\"\"/**\n/*/// z\nv".toList :=
    ⟨4, by decide, by decide⟩
  obtain ⟨-, -, -, -, hliterals⟩ := strip_segments hd "u = ".toList "/**\n/*/// z\nv".toList
  obtain ⟨hfirst, hstart'⟩ := hliterals _ _ hliteral hstart
  obtain ⟨-, hblocks, -⟩ := strip_segments hd "u = \"//\\\"\"".toList "// z\nv".toList
  obtain ⟨hsecond, hstart''⟩ := hblocks _ _ _ hblock hstart'
  obtain ⟨-, -, hlines, -⟩ := strip_segments hd "u = \"//\\\"\"/**\n/*/".toList "v".toList
  obtain ⟨hthird, -⟩ := hlines _ hline hstart''
  exact ⟨hd, hfirst, hsecond, hthird⟩

end Comment
end SourceAtlas
