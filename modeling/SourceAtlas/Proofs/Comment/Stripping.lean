import SourceAtlas.Extract.Outline
import SourceAtlas.Proofs.Comment.Moves

/-!
# Stripped text has no comments left

Taking the comments out of a text a second time changes nothing, and the outline of a text is the
outline of the stripped text.

Removing a comment brings together characters that did not stand together, so the point to be shown
is that nothing new begins at such a seam.  A block comment leaves a space and a line comment leaves
a line break or the end of the text; a delimiter that contains neither therefore stands in the
stripped text only where it stood in the text (`prefix_of_prefix_emitted`).  With that, every move
of the first scan that writes something is a move of the second scan as well (`Move.again`).

* `Delimiters.Seamless` — the delimiters this works for; all rules of the registry have them.
* `emitted_idem` — the second scan writes what it reads.
* `count_break_emitted` — a scan keeps the number of line breaks.
* `strip_invisible` — the main result, for texts and for outlines.
-/

namespace SourceAtlas

/-! ## Seamless delimiters -/

/-- A mark that cannot arise where something was taken out of a text. -/
def SeamlessMark (mark : List Char) : Prop := mark ≠ [] ∧ ' ' ∉ mark ∧ '\n' ∉ mark

instance (mark : List Char) : Decidable (SeamlessMark mark) :=
  inferInstanceAs (Decidable (_ ∧ _))

namespace Delimiters

/-- Openers of blocks and markers of lines are not empty and contain neither a space nor a line
break, and no quote is one of the two. -/
structure Seamless (d : Delimiters) : Prop where
  opener : ∀ pair ∈ d.block, SeamlessMark pair.1
  marker : ∀ mark ∈ d.line, SeamlessMark mark
  quote : ∀ q ∈ d.quotes ++ d.multilineQuotes, q ≠ ' ' ∧ q ≠ '\n'

/-- No delimiter of a block comment contains a line break. -/
def Unbroken (d : Delimiters) : Prop := ∀ pair ∈ d.block, '\n' ∉ pair.1 ∧ '\n' ∉ pair.2

/-- The test for `Seamless`. -/
def isSeamless (d : Delimiters) : Bool :=
  d.block.all (fun pair => decide (SeamlessMark pair.1)) &&
    d.line.all (fun mark => decide (SeamlessMark mark)) &&
    (d.quotes ++ d.multilineQuotes).all (fun q => q != ' ' && q != '\n')

theorem isSeamless_iff (d : Delimiters) : d.isSeamless = true ↔ d.Seamless := by
  constructor
  · intro h
    simp only [isSeamless, Bool.and_eq_true, List.all_eq_true, decide_eq_true_eq, bne_iff_ne] at h
    exact ⟨h.1.1, h.1.2, h.2⟩
  · intro h
    simp only [isSeamless, Bool.and_eq_true, List.all_eq_true, decide_eq_true_eq, bne_iff_ne]
    exact ⟨⟨h.opener, h.marker⟩, h.quote⟩

instance (d : Delimiters) : Decidable d.Seamless := decidable_of_iff _ d.isSeamless_iff

instance (d : Delimiters) : Decidable d.Unbroken :=
  inferInstanceAs (Decidable (∀ _ ∈ _, _))

theorem Seamless.productive {d : Delimiters} (h : d.Seamless) : d.Productive :=
  fun pair hpair => Or.inl (h.opener pair hpair).1

end Delimiters

/-- The delimiters of every language with a rule are seamless, and their blocks unbroken. -/
theorem Registry.delimiters_seamless :
    ∀ r ∈ Registry.rules, r.delimiters.Seamless ∧ r.delimiters.Unbroken := by
  decide +kernel

namespace Comment

variable {d : Delimiters} {region region' : Region} {text text' out : List Char}

/-! ## No delimiter arises at a seam -/

/-- A seamless mark does not begin with a space or a line break. -/
theorem not_seamless_prefix {c : Char} (hc : c = ' ' ∨ c = '\n') {w rest : List Char}
    (hw : SeamlessMark w) : ¬ w <+: c :: rest := by
  intro h
  rcases List.prefix_cons_iff.1 h with rfl | ⟨w', rfl, -⟩
  · exact hw.1 rfl
  · rcases hc with rfl | rfl
    · exact hw.2.1 (List.mem_cons_self ..)
    · exact hw.2.2 (List.mem_cons_self ..)

/-- What is written from inside a line comment on begins with a line break, if it is not empty. -/
theorem eq_nil_of_prefix_emitted_line (hd : d.Productive) {w : List Char} (hbreak : '\n' ∉ w)
    (h : w <+: emitted d .lineComment text) : w = [] := by
  induction text with
  | nil => simpa using h
  | cons c rest ih =>
      by_cases hc : c = '\n'
      · subst hc
        rw [emitted_move hd .endLine] at h
        rcases List.prefix_cons_iff.1 h with rfl | ⟨w', rfl, -⟩
        · rfl
        · exact absurd (List.mem_cons_self ..) hbreak
      · rw [emitted_move hd (.dropLine hc)] at h
        exact ih h

/-- The regions in which the scanner copies what it reads. -/
def Region.copies : Region → Bool
  | .code => true
  | .literal _ _ => true
  | _ => false

/-- **Nothing arises at a seam.**  A word without spaces and line breaks that stands at the front of
what is written stands at the front of the text. -/
theorem prefix_of_prefix_emitted (hd : d.Productive) (region : Region) (text : List Char) :
    region.copies = true → ∀ w : List Char, ' ' ∉ w → '\n' ∉ w → w <+: emitted d region text →
      w <+: text := by
  induction region, text using move_induction hd with
  | nil region =>
      intro _ w _ _ h
      simpa using h
  | move region text out region' text' hmove ih =>
      intro hcopies w hspace hbreak h
      rw [emitted_move hd hmove] at h
      cases hmove with
      | openBlock hne hfind =>
          rcases List.prefix_cons_iff.1 h with rfl | ⟨w', rfl, -⟩
          · exact List.nil_prefix
          · exact absurd (List.mem_cons_self ..) hspace
      | openLine hblock hline =>
          rw [eq_nil_of_prefix_emitted_line hd hbreak h]
          exact List.nil_prefix
      | escape =>
          rcases List.prefix_cons_iff.1 h with rfl | ⟨w', rfl, h'⟩
          · exact List.nil_prefix
          · refine List.cons_prefix_cons.2 ⟨rfl, ?_⟩
            rcases List.prefix_cons_iff.1 h' with rfl | ⟨w'', rfl, h''⟩
            · exact List.nil_prefix
            · refine List.cons_prefix_cons.2 ⟨rfl, ?_⟩
              have hspace'' := List.not_mem_of_not_mem_cons (List.not_mem_of_not_mem_cons hspace)
              have hbreak'' := List.not_mem_of_not_mem_cons (List.not_mem_of_not_mem_cons hbreak)
              exact ih rfl w'' hspace'' hbreak'' h''
      | escapeEnd => simpa using h
      | openLiteral _ _ | copyCode _ _ | endLiteral _ _ | copyLiteral _ _ =>
          rcases List.prefix_cons_iff.1 h with rfl | ⟨w', rfl, h'⟩
          · exact List.nil_prefix
          · have hspace' := List.not_mem_of_not_mem_cons hspace
            have hbreak' := List.not_mem_of_not_mem_cons hbreak
            exact List.cons_prefix_cons.2 ⟨rfl, ih rfl w' hspace' hbreak' h'⟩
      | _ => cases hcopies

/-! ## The second scan follows the first -/

/-- The region in which a second scan reads what was written in a region. -/
def Region.reread : Region → Region
  | .literal quote multiline => .literal quote multiline
  | _ => .code

/-- A space or a line break is copied when it is read again. -/
theorem Move.copy_blank (hd : d.Seamless) {c : Char} (hc : c = ' ' ∨ c = '\n') (rest : List Char) :
    Move d .code (c :: rest) [c] .code rest := by
  refine .copyCode ⟨?_, ?_⟩ ?_
  · intro pair hpair
    exact not_seamless_prefix hc (hd.opener pair hpair)
  · intro marker hmarker
    exact not_seamless_prefix hc (hd.marker marker hmarker)
  · rw [← Bool.not_eq_true]
    intro hquote
    have hmem : c ∈ d.quotes ++ d.multilineQuotes := by
      simpa [Delimiters.isQuote] using hquote
    have hne := hd.quote c hmem
    rcases hc with rfl | rfl
    · exact hne.1 rfl
    · exact hne.2 rfl

/-- Where no comment begins in the text, none begins in what is written from there on. -/
theorem noComment_emitted (hd : d.Seamless) (h : d.NoComment text) :
    d.NoComment (emitted d .code text) := by
  refine ⟨?_, ?_⟩
  · intro pair hpair hprefix
    have hmark := hd.opener pair hpair
    exact h.1 pair hpair
      (prefix_of_prefix_emitted hd.productive .code text rfl _ hmark.2.1 hmark.2.2 hprefix)
  · intro marker hmarker hprefix
    have hmark := hd.marker marker hmarker
    exact h.2 marker hmarker
      (prefix_of_prefix_emitted hd.productive .code text rfl _ hmark.2.1 hmark.2.2 hprefix)

/-- A move that writes something can be made again on what was written. -/
theorem Move.again (hd : d.Seamless) (h : Move d region text out region' text') :
    (out = [] ∧ region.reread = region'.reread) ∨
      Move d region.reread (out ++ emitted d region' text') out region'.reread
        (emitted d region' text') := by
  have hwritten := emitted_move hd.productive h
  cases h with
  | openBlock => exact Or.inr (.copy_blank hd (Or.inl rfl) _)
  | openLine => exact Or.inl ⟨rfl, rfl⟩
  | openLiteral hplain hquote =>
      have hplain' := noComment_emitted hd hplain
      rw [hwritten] at hplain'
      exact Or.inr (.openLiteral hplain' hquote)
  | copyCode hplain hquote =>
      have hplain' := noComment_emitted hd hplain
      rw [hwritten] at hplain'
      exact Or.inr (.copyCode hplain' hquote)
  | endLine => exact Or.inr (.copy_blank hd (Or.inr rfl) _)
  | dropLine => exact Or.inl ⟨rfl, rfl⟩
  | closeBlock => exact Or.inl ⟨rfl, rfl⟩
  | breakBlock => exact Or.inr (.copy_blank hd (Or.inr rfl) _)
  | dropBlock => exact Or.inl ⟨rfl, rfl⟩
  | escape => exact Or.inr .escape
  | escapeEnd =>
      rw [emitted_nil]
      exact Or.inr .escapeEnd
  | endLiteral hc hend => exact Or.inr (.endLiteral hc hend)
  | copyLiteral hc hgo => exact Or.inr (.copyLiteral hc hgo)

/-- **The second scan writes what it reads.** -/
theorem emitted_idem (hd : d.Seamless) (region : Region) (text : List Char) :
    emitted d region.reread (emitted d region text) = emitted d region text := by
  induction region, text using move_induction hd.productive with
  | nil region => rw [emitted_nil, emitted_nil]
  | move region text out region' text' hmove ih =>
      rw [emitted_move hd.productive hmove]
      rcases hmove.again hd with ⟨rfl, hregion⟩ | hagain
      · rw [List.nil_append, hregion, ih]
      · rw [emitted_move hd.productive hagain, ih]

theorem strip_strip (hd : d.Seamless) (text : List Char) :
    strip d (strip d text) = strip d text := by
  rw [strip_eq_emitted hd.productive, strip_eq_emitted hd.productive]
  exact emitted_idem hd .code text

/-! ## Line breaks are kept -/

/-- A region whose comment does not end in the middle of a line break. -/
def Region.Unbroken : Region → Prop
  | .blockComment closer => '\n' ∉ closer
  | _ => True

theorem Move.unbroken (hd : d.Unbroken) (h : Move d region text out region' text')
    (hregion : region.Unbroken) : region'.Unbroken := by
  cases h with
  | openBlock hne hfind => exact (hd _ (List.mem_of_find?_eq_some hfind)).2
  | breakBlock => exact hregion
  | dropBlock => exact hregion
  | _ => exact True.intro

/-- A scan keeps the number of line breaks. -/
theorem count_break_emitted (hp : d.Productive) (hd : d.Unbroken) (region : Region)
    (text : List Char) :
    region.Unbroken → (emitted d region text).count '\n' = text.count '\n' := by
  induction region, text using move_induction hp with
  | nil region =>
      intro _
      rw [emitted_nil]
  | move region text out region' text' hmove ih =>
      intro hregion
      have hrest := ih (hmove.unbroken hd hregion)
      rw [emitted_move hp hmove, List.count_append, hrest]
      cases hmove with
      | openBlock hne hfind =>
          have hopener := (hd _ (List.mem_of_find?_eq_some hfind)).1
          rw [List.count_append, List.count_eq_zero.2 hopener]
          rfl
      | closeBlock => rw [List.count_append, List.count_eq_zero.2 hregion, List.count_nil]
      | dropLine hc => rw [List.count_cons_of_ne hc, List.count_nil, Nat.zero_add]
      | dropBlock _ hc => rw [List.count_cons_of_ne hc, List.count_nil, Nat.zero_add]
      | openLine => rw [List.count_nil, Nat.zero_add]
      | escapeEnd => rfl
      | _ =>
          rw [← List.count_append]
          rfl

end Comment

/-! ## Texts and outlines -/

theorem Registry.mem_rules_of_rule? {l : Language} {r : Rule} (h : Registry.rule? l = some r) :
    r ∈ Registry.rules :=
  List.mem_of_find?_eq_some h

theorem Registry.countLines_strip {r : Rule} (hr : r ∈ Registry.rules) (text : List Char) :
    Text.countLines (Comment.strip r.delimiters text) = Text.countLines text := by
  obtain ⟨hseamless, hunbroken⟩ := Registry.delimiters_seamless r hr
  rw [Text.countLines, Text.countLines, Comment.strip_eq_emitted hseamless.productive,
    Comment.count_break_emitted hseamless.productive hunbroken .code text True.intro]

/-- **Stripping is idempotent and invisible to outlines.**  With seamless delimiters a second
stripping changes nothing; the delimiters of every rule are seamless; and so the outline of a
stripped text is the outline of the text, with all names and with the number of lines. -/
theorem strip_invisible :
    (∀ d : Delimiters, d.Seamless → ∀ text : List Char,
      Comment.strip d (Comment.strip d text) = Comment.strip d text) ∧
    (∀ r ∈ Registry.rules, r.delimiters.Seamless) ∧
    (∀ (l : Language) (r : Rule), Registry.rule? l = some r → ∀ text : List Char,
      Outline.extract l (Comment.strip r.delimiters text) = Outline.extract l text) := by
  refine ⟨fun d hd => Comment.strip_strip hd, ?_, ?_⟩
  · exact fun r hr => (Registry.delimiters_seamless r hr).1
  · intro l r hrule text
    have hr := Registry.mem_rules_of_rule? hrule
    have hstrip := Comment.strip_strip (Registry.delimiters_seamless r hr).1 text
    simp only [Outline.extract, hrule, Outline.facts, hstrip, Registry.countLines_strip hr]

/-- A documentation string between two quotes: without it the quotes would stand closer together,
but a space keeps them apart. -/
theorem strip_invisible_quotes :
    Rule.python.delimiters.Seamless ∧ Registry.rule? .python = some Rule.python ∧
      Comment.strip Rule.python.delimiters
          (Comment.strip Rule.python.delimiters "x = ''\"\"\"doc\"\"\"'# no' # yes\n".toList) =
        Comment.strip Rule.python.delimiters "x = ''\"\"\"doc\"\"\"'# no' # yes\n".toList ∧
      Outline.extract .python
          (Comment.strip Rule.python.delimiters "def f(): # one\n".toList) =
        Outline.extract .python "def f(): # one\n".toList := by
  have hseamless : Rule.python.delimiters.Seamless := by decide +kernel
  exact ⟨hseamless, rfl, strip_invisible.1 _ hseamless _, strip_invisible.2.2 .python _ rfl _⟩

end SourceAtlas
