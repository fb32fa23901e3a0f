import SourceAtlas.Proofs.Comment.Strokes
import SourceAtlas.Proofs.Extract.Concatenation

/-!
# Braces in string literals

Two scanners look for string literals.  The comment scanner goes through the whole text and knows at
every line break whether a literal goes on; the tracker of scopes reads the stripped text line by
line and begins every line outside literals.  Both see the same braces on a line that begins outside
literals.  On a line that begins inside one, the tracker takes the inside for the outside; it would
see the same braces if it began the line where the comment scanner stands.

* `Scopes.bracesIn`, `Comment.codeBraces` — the braces of a line that the tracker acts on, and those
  that the comment scanner has copied from program text.
* `Comment.Move.follows` — what the tracker makes of the characters that a move writes.
* `Comment.linesFrom_agree` — what it makes of a whole run: read from where the comment scanner
  stands, every line has the same braces for both.
* `Outline.actedBraces_eq` — the main result, over the lines that the tracker reads;
  `Outline.actedBraces_ne` shows what happens on other lines.
-/

namespace SourceAtlas

/-! ## Braces that the tracker acts on -/

namespace Scopes

variable {d : Delimiters}

/-- Whether a character opens or closes a scope. -/
def isBrace (c : Char) : Bool := c = '\x7b' || c = '\x7d'

/-- The braces of a line that open and close scopes. -/
def bracesIn (d : Delimiters) (line : List Char) : List Char := (unquoted d line).filter isBrace

theorem opened_read {c : Char} (hc : isBrace c = false) (s : Scopes) :
    (s.read c).opened = s.opened := by
  simp only [isBrace, Bool.or_eq_false_iff, decide_eq_false_iff_not] at hc
  rw [read, if_neg hc.1, if_neg hc.2]
  split <;> rfl

/-- No other character of a line opens or closes a scope. -/
theorem opened_advance {line : List Char} (h : bracesIn d line = []) (s : Scopes) :
    (s.advance d line).opened = s.opened := by
  have hread : ∀ (kept : List Char) (s : Scopes), kept.filter isBrace = [] →
      (kept.foldl read s).opened = s.opened := by
    intro kept
    induction kept with
    | nil => exact fun s _ => rfl
    | cons c kept ih =>
        intro s hkept
        have hc : isBrace c = false := by
          simpa using List.filter_eq_nil_iff.1 hkept c (List.mem_cons_self ..)
        rw [List.filter_cons_of_neg (by simp [hc])] at hkept
        rw [List.foldl_cons, ih (s.read c) hkept, opened_read hc]
  rw [advance]
  split
  · exact hread _ s h
  · exact hread _ s h

/-- The braces that the tracker acts on in what is left of a line. -/
def bracesFrom (d : Delimiters) : Quoting → List Char → List Char
  | _, [] => []
  | q, c :: rest =>
    if q = .outside && !d.isQuote c && isBrace c then c :: bracesFrom d (q.read d c) rest
    else bracesFrom d (q.read d c) rest

theorem foldl_readUnquoted (line : List Char) :
    ∀ (q : Quoting) (kept : List Char),
      (line.foldl (readUnquoted d) (q, kept)).2.reverse.filter isBrace =
        kept.reverse.filter isBrace ++ bracesFrom d q line := by
  induction line with
  | nil => exact fun q kept => (List.append_nil _).symm
  | cons c line ih =>
      intro q kept
      rw [List.foldl_cons, readUnquoted, bracesFrom]
      by_cases hkept : (q = .outside && !d.isQuote c) = true
      · have hread : q.read d c = q := by
          simp only [Bool.and_eq_true, decide_eq_true_eq, Bool.not_eq_true'] at hkept
          rw [hkept.1, Quoting.read, hkept.2]
          rfl
        rw [if_pos hkept, ih, hread, hkept]
        cases hc : isBrace c <;> simp [hc]
      · rw [if_neg hkept, ih, Bool.eq_false_iff.2 hkept]
        simp

theorem bracesIn_eq (line : List Char) : bracesIn d line = bracesFrom d .outside line := by
  rw [bracesIn, unquoted, foldl_readUnquoted]
  rfl

/-- A character that is no brace adds nothing at the end of a line. -/
theorem bracesFrom_concat {c : Char} (hc : isBrace c = false) (line : List Char) :
    ∀ q, bracesFrom d q (line ++ [c]) = bracesFrom d q line := by
  induction line with
  | nil => simp [bracesFrom, hc]
  | cons c' line ih =>
      intro q
      rw [List.cons_append, bracesFrom, bracesFrom, ih]

theorem bracesFrom_dropReturn (q : Quoting) (line : List Char) :
    bracesFrom d q (Text.dropReturn line) = bracesFrom d q line := by
  rw [Text.dropReturn]
  split
  · rename_i hlast
    obtain ⟨front, rfl⟩ := List.getLast?_eq_some_iff.1 hlast
    rw [List.dropLast_concat, bracesFrom_concat (by decide)]
  · rfl

end Scopes

namespace Delimiters

open Scopes (isBrace)

/-- Whether no quote is a brace. -/
def sparesBraces (d : Delimiters) : Bool :=
  (d.quotes ++ d.multilineQuotes).all fun q => !isBrace q

theorem isBrace_of_isQuote {d : Delimiters} (hd : d.sparesBraces = true) {c : Char}
    (hc : d.isQuote c = true) : isBrace c = false := by
  have hmem : c ∈ d.quotes ++ d.multilineQuotes := by simpa [isQuote] using hc
  simpa using List.all_eq_true.1 hd c hmem

/-- Neither a space nor a line break is a quote. -/
theorem Seamless.isQuote_eq_false {d : Delimiters} (hd : d.Seamless) {c : Char}
    (hc : c = ' ' ∨ c = '\n') : d.isQuote c = false := by
  rw [← Bool.not_eq_true]
  intro hquote
  have hne := hd.quote c (by simpa [isQuote] using hquote)
  exact hc.elim hne.1 hne.2

end Delimiters

/-- No language has a brace for a quote. -/
theorem Registry.sparesBraces : ∀ r ∈ Registry.rules, r.delimiters.sparesBraces = true := by
  decide +kernel

/-! ## Braces that the comment scanner copies from program text -/

namespace Comment

open Scopes (isBrace bracesFrom)

variable {d : Delimiters} {region region' : Region} {text text' out : List Char}

/-- The braces that were copied from program text. -/
def codeBraces (strokes : List Stroke) : List Char :=
  (strokes.filter fun s => s.within = .code && isBrace s.char).map Stroke.char

theorem codeBraces_append (strokes strokes' : List Stroke) :
    codeBraces (strokes ++ strokes') = codeBraces strokes ++ codeBraces strokes' := by
  simp [codeBraces]

theorem codeBraces_cons (s : Stroke) (strokes : List Stroke) :
    codeBraces (s :: strokes) =
      if s.within = .code && isBrace s.char then s.char :: codeBraces strokes
      else codeBraces strokes := by
  rw [codeBraces, List.filter_cons]
  split <;> rfl

/-- The braces of strokes are the braces of their lines. -/
theorem flatMap_codeBraces_linesFrom (strokes : List Stroke) :
    ∀ start, (linesFrom start strokes).flatMap (codeBraces ·.strokes) = codeBraces strokes := by
  induction strokes with
  | nil => exact fun start => rfl
  | cons s rest ih =>
      intro start
      rw [linesFrom, codeBraces_cons]
      by_cases hs : s.char = '\n'
      · have hbrace : isBrace s.char = false := by rw [hs]; rfl
        rw [if_pos hs, List.flatMap_cons, ih, hbrace, Bool.and_false]
        rfl
      · obtain ⟨strokes', others, hlines⟩ := exists_linesFrom_eq_cons start rest
        rw [if_neg hs, ← ih start, hlines, List.modifyHead_cons, List.flatMap_cons,
          List.flatMap_cons, codeBraces_cons]
        split <;> rfl

/-- Whether a region is a string literal. -/
def Region.isLiteral : Region → Bool
  | .literal _ _ => true
  | _ => false

/-- What the tracker should know of a region. -/
def Region.quoting : Region → Scopes.Quoting
  | .literal quote _ => .inside quote
  | _ => .outside

theorem Region.quoting_eq_outside (h : region.isLiteral = false) : region.quoting = .outside := by
  cases region with
  | literal => cases h
  | _ => rfl

/-! ## One move -/

/-- The tracker goes along with a move that writes `out` with `text'` ahead: if `out` ends a line,
it has found the same braces in it, and if not, it goes on where the scanner does.  Behind the end
of the text there is nothing to go on with. -/
def Follows (d : Delimiters) (region region' : Region) (out text' : List Char) : Prop :=
  (∃ front, out = front ++ ['\n'] ∧ '\n' ∉ front ∧
    bracesFrom d region.quoting front = codeBraces (front.map (⟨·, region, region'⟩))) ∨
  ('\n' ∉ out ∧ ∀ more, (text' = [] → more = []) →
    bracesFrom d region.quoting (out ++ more) =
      codeBraces (out.map (⟨·, region, region'⟩)) ++ bracesFrom d region'.quoting more)

theorem follows_nil (h : region.quoting = region'.quoting) : Follows d region region' [] text' :=
  Or.inr ⟨List.not_mem_nil, fun more _ => by rw [h]; rfl⟩

/-- A single character is followed if it is counted by both or by none, and if it leads the tracker
to where the scanner goes. -/
theorem follows_singleton {c : Char}
    (hcount : (region.quoting = .outside && !d.isQuote c && isBrace c) =
      (region = .code && isBrace c))
    (hread : c ≠ '\n' → region.quoting.read d c = region'.quoting) :
    Follows d region region' [c] text' := by
  by_cases hc : c = '\n'
  · subst hc
    exact Or.inl ⟨[], rfl, List.not_mem_nil, rfl⟩
  · refine Or.inr ⟨by simpa using Ne.symm hc, fun more _ => ?_⟩
    rw [List.singleton_append, bracesFrom, hread hc, hcount, List.map_singleton, codeBraces_cons]
    split <;> rfl

/-- **The tracker goes along with every move.** -/
theorem Move.follows (hd : d.Seamless) (hbraces : d.sparesBraces = true)
    (h : Move d region text out region' text') : Follows d region region' out text' := by
  cases h with
  | openBlock hne hfind =>
      have hspace := hd.isQuote_eq_false (Or.inl rfl)
      refine follows_singleton (by simp [isBrace]) fun _ => ?_
      simp [Region.quoting, Scopes.Quoting.read, hspace]
  | openLiteral hplain hquote =>
      have hbrace := Delimiters.isBrace_of_isQuote hbraces hquote
      refine follows_singleton (by simp [hquote, hbrace]) fun _ => ?_
      simp [Region.quoting, Scopes.Quoting.read, hquote]
  | copyCode hplain hquote =>
      refine follows_singleton (by simp [Region.quoting, hquote]) fun _ => ?_
      simp [Region.quoting, Scopes.Quoting.read, hquote]
  | openLine | dropLine | closeBlock | dropBlock => exact follows_nil rfl
  | endLine | breakBlock => exact follows_singleton (by simp [isBrace]) fun hc => absurd rfl hc
  | @escape quote multiline e rest =>
      by_cases he : e = '\n'
      · subst he
        exact Or.inl ⟨['\\'], rfl, by decide, by simp [bracesFrom, Region.quoting, codeBraces]⟩
      · refine Or.inr ⟨by simpa using Ne.symm he, fun more _ => ?_⟩
        simp [bracesFrom, Region.quoting, Scopes.Quoting.read, codeBraces]
  | escapeEnd =>
      refine Or.inr ⟨by decide, fun more hmore => ?_⟩
      rw [hmore rfl]
      simp [bracesFrom, Region.quoting, codeBraces]
  | endLiteral hc hend =>
      refine follows_singleton (by simp [Region.quoting]) fun hbreak => ?_
      have hquote := hend.resolve_right fun h => hbreak h.1
      simp [Region.quoting, Scopes.Quoting.read, hquote, hquote ▸ hc]
  | @copyLiteral quote multiline c rest hc hgo =>
      have hquote : c ≠ quote := fun h => hgo (Or.inl h)
      refine follows_singleton (by simp [Region.quoting]) fun _ => ?_
      simp [Region.quoting, Scopes.Quoting.read, hc, hquote]

/-! ## Whole runs -/

theorem char_ne_break (hout : '\n' ∉ out) :
    ∀ s ∈ out.map (Stroke.mk · region region'), s.char ≠ '\n' := by
  simp only [List.forall_mem_map]
  exact fun c hc heq => hout (heq ▸ hc)

/-- Both scanners find the same braces in a line, if the tracker begins it as told. -/
def ScannedLine.Agrees (d : Delimiters) (q : Scopes.Quoting) (l : ScannedLine) : Prop :=
  bracesFrom d q l.chars = codeBraces l.strokes

/-- **Lines agree.**  Both scanners find the same braces in a line, if the tracker begins it where
the scanner stands: the first line in the region in which the scan begins, and every later line in
its own. -/
theorem linesFrom_agree (hd : d.Seamless) (hbraces : d.sparesBraces = true) (region : Region)
    (text : List Char) :
    ∀ start, ∃ strokes others,
      linesFrom start (strokesFrom d region text) = ⟨start, strokes⟩ :: others ∧
      (text = [] → strokes = []) ∧
      ScannedLine.Agrees d region.quoting ⟨start, strokes⟩ ∧
      ∀ l ∈ others, l.Agrees d l.start.quoting := by
  -- along the moves; a move that ends a line starts the next one in the region it leads to
  induction region, text using move_induction hd.productive with
  | nil region =>
      intro start
      refine ⟨[], [], by rw [strokesFrom_nil]; rfl, fun _ => rfl, rfl, ?_⟩
      exact fun l hl => absurd hl List.not_mem_nil
  | move region text out region' text' hmove ih =>
      intro start
      have hne := hmove.ne_nil
      rw [strokesFrom_move hd.productive hmove]
      rcases hmove.follows hd hbraces with ⟨front, rfl, hfront, hsame⟩ | ⟨hout, hsame⟩
      · obtain ⟨strokes, others, hlines, -, hfirst, hothers⟩ := ih region'
        refine ⟨front.map (⟨·, region, region'⟩), ⟨region', strokes⟩ :: others, ?_, ?_, ?_, ?_⟩
        · have hbreak : linesFrom start (⟨'\n', region, region'⟩ :: strokesFrom d region' text') =
              ⟨start, []⟩ :: ⟨region', strokes⟩ :: others := by
            rw [linesFrom, if_pos rfl, hlines]
          rw [List.map_append, List.append_assoc]
          simpa using linesFrom_append (char_ne_break hfront) hbreak
        · exact fun h => absurd h hne
        · simpa [ScannedLine.Agrees, ScannedLine.chars, Function.comp_def] using hsame
        · exact List.forall_mem_cons.2 ⟨hfirst, hothers⟩
      · obtain ⟨strokes, others, hlines, hnil, hfirst, hothers⟩ := ih start
        refine ⟨out.map (⟨·, region, region'⟩) ++ strokes, others,
          linesFrom_append (char_ne_break hout) hlines, fun h => absurd h hne, ?_, hothers⟩
        have hmore : text' = [] → strokes.map Stroke.char = [] := fun h => by rw [hnil h]; rfl
        have hline := hsame (strokes.map Stroke.char) hmore
        rw [ScannedLine.Agrees, ScannedLine.chars] at hfirst ⊢
        rw [codeBraces_append, ← hfirst, ← hline, List.map_append, List.map_map]
        simp [Function.comp_def]

theorem scannedLines_agree (hd : d.Seamless) (hbraces : d.sparesBraces = true) (text : List Char) :
    ∀ l ∈ scannedLines d text, l.Agrees d l.start.quoting := by
  obtain ⟨strokes, others, hlines, -, hfirst, hothers⟩ :=
    linesFrom_agree hd hbraces .code text .code
  rw [scannedLines, strokes_eq_strokesFrom hd.productive, hlines]
  exact List.forall_mem_cons.2 ⟨hfirst, hothers⟩

/-! ## Lines that begin outside literals -/

theorem start_of_mem_linesFrom (strokes : List Stroke) :
    ∀ start, ∀ l ∈ linesFrom start strokes,
      l.start = start ∨ ∃ s ∈ strokes, s.char = '\n' ∧ l.start = s.next := by
  induction strokes with
  | nil =>
      intro start l hl
      rw [linesFrom, List.mem_singleton] at hl
      exact Or.inl (by rw [hl])
  | cons s rest ih =>
      intro start l hl
      rw [linesFrom] at hl
      split at hl
      · rename_i hs
        rcases List.mem_cons.1 hl with rfl | hl
        · exact Or.inl rfl
        · rcases ih s.next l hl with hstart | ⟨s', hs', hbreak⟩
          · exact Or.inr ⟨s, List.mem_cons_self .., hs, hstart⟩
          · exact Or.inr ⟨s', List.mem_cons_of_mem s hs', hbreak⟩
      · obtain ⟨strokes', others, hlines⟩ := exists_linesFrom_eq_cons start rest
        rw [hlines, List.modifyHead_cons] at hl
        rcases List.mem_cons.1 hl with rfl | hl
        · exact Or.inl rfl
        · rcases ih start l (hlines ▸ List.mem_cons_of_mem _ hl) with hstart | ⟨s', hs', hbreak⟩
          · exact Or.inl hstart
          · exact Or.inr ⟨s', List.mem_cons_of_mem s hs', hbreak⟩

/-- The region is no literal that may span lines. -/
def Region.endsWithLine : Region → Bool
  | .literal _ multiline => !multiline
  | _ => true

theorem Move.endsWithLine (hquotes : d.multilineQuotes = [])
    (h : Move d region text out region' text') (hregion : region.endsWithLine = true) :
    region'.endsWithLine = true := by
  cases h with
  | @openLiteral c rest hplain hquote =>
      have hmem : c ∈ d.quotes := by simpa [Delimiters.isQuote, hquotes] using hquote
      simpa [Region.endsWithLine] using hmem
  | escape | escapeEnd | copyLiteral => exact hregion
  | _ => rfl

/-- A line break that is not escaped ends every literal, unless it may span lines. -/
theorem Move.isLiteral_of_break (hd : d.Seamless) (h : Move d region text out region' text')
    (hregion : region.endsWithLine = true) (hescape : ¬ ['\\', '\n'] <:+: text)
    (hbreak : '\n' ∈ out) : region'.isLiteral = false := by
  cases h with
  | openLiteral hplain hquote =>
      rw [← List.mem_singleton.1 hbreak, hd.isQuote_eq_false (Or.inr rfl)] at hquote
      cases hquote
  | escape =>
      simp only [List.mem_cons, List.not_mem_nil, or_false] at hbreak
      rcases hbreak with hbreak | rfl
      · exact absurd hbreak (by decide)
      · exact absurd (List.prefix_append ['\\', '\n'] _).isInfix hescape
  | escapeEnd => simp at hbreak
  | copyLiteral _ hgo =>
      have hc := List.mem_singleton.1 hbreak
      simp only [Region.endsWithLine, Bool.not_eq_true'] at hregion
      exact absurd (Or.inr ⟨hc.symm, hregion⟩) hgo
  | _ => rfl

/-- Without quotes of the multi-line kind and without escaped line breaks, no literal is open behind
a line break. -/
theorem next_of_break (hd : d.Seamless) (hquotes : d.multilineQuotes = []) (region : Region)
    (text : List Char) :
    region.endsWithLine = true → ¬ ['\\', '\n'] <:+: text →
      ∀ s ∈ strokesFrom d region text, s.char = '\n' → s.next.isLiteral = false := by
  induction region, text using move_induction hd.productive with
  | nil region =>
      intro _ _ s hs
      rw [strokesFrom_nil] at hs
      exact absurd hs List.not_mem_nil
  | move region text out region' text' hmove ih =>
      intro hregion hescape s hs hbreak
      rw [strokesFrom_move hd.productive hmove] at hs
      rcases List.mem_append.1 hs with hs | hs
      · obtain ⟨c, hc, rfl⟩ := List.mem_map.1 hs
        exact hmove.isLiteral_of_break hd hregion hescape (hbreak ▸ hc)
      · refine ih (hmove.endsWithLine hquotes hregion) (fun hinside => ?_) s hs hbreak
        exact hescape (hinside.trans hmove.suffix.isInfix)

/-- Then every line begins outside literals. -/
theorem start_of_mem_scannedLines (hd : d.Seamless) (hquotes : d.multilineQuotes = [])
    (hescape : ¬ ['\\', '\n'] <:+: text) :
    ∀ l ∈ scannedLines d text, l.start.isLiteral = false := by
  intro l hl
  rw [scannedLines, strokes_eq_strokesFrom hd.productive] at hl
  rcases start_of_mem_linesFrom _ .code l hl with hstart | ⟨s, hs, hbreak, hstart⟩
  · rw [hstart]
    rfl
  · rw [hstart]
    exact next_of_break hd hquotes .code text rfl hescape s hs hbreak

end Comment

/-! ## The lines that the tracker reads -/

namespace Outline

open Comment (ScannedLine scannedLines codeBraces)

variable {r : Rule}

/-- Whether the tracker reads a line: in a language that nests by braces, every line outside groups
of imports. -/
def Reader.tracks (r : Rule) (reader : Reader) (line : List Char) : Bool :=
  r.nesting = .braces && r.importBlock.all fun b => !reader.inImports && !b.opensAt line

/-- The braces of a line that open and close scopes. -/
def Reader.acted (r : Rule) (reader : Reader) (line : List Char) : List Char :=
  if reader.tracks r line then Scopes.bracesIn r.delimiters line else []

/-- No other character opens or closes a scope. -/
theorem opened_readLine (hbraces : r.nesting = .braces) {reader : Reader} {line : List Char}
    (h : reader.acted r line = []) :
    (readLine r reader line).1.scopes.opened = reader.scopes.opened := by
  have hplain : Scopes.bracesIn r.delimiters line = [] →
      (readPlain r reader line).1.scopes.opened = reader.scopes.opened := by
    intro hline
    simp only [readPlain, if_pos hbraces, Scopes.opened_advance hline]
    cases fact r reader.scopes line <;> rfl
  simp only [Reader.acted, Reader.tracks, hbraces, decide_true, Bool.true_and] at h
  cases hblock : r.importBlock with
  | none =>
      simp only [readLine, hblock]
      exact hplain (by simpa [hblock] using h)
  | some b =>
      simp only [readLine, hblock]
      split
      · rw [readImport]
        split <;> rfl
      · rename_i hoff
        split
        · rfl
        · rename_i hopens
          exact hplain (by simpa [hblock, hoff, hopens] using h)

/-- The braces of lines that the tracker acts on, in order, from a reader on. -/
def actedFrom (r : Rule) : Reader → List (List Char) → List Char
  | _, [] => []
  | reader, line :: rest => reader.acted r line ++ actedFrom r (readLine r reader line).1 rest

/-- The braces of a text that the tracker acts on, in order. -/
def actedBraces (r : Rule) (text : List Char) : List Char :=
  actedFrom r .start (Text.lines (Comment.strip r.delimiters text))

/-- The lines of a stripped text as they are read, each with its strokes. -/
def scanned (r : Rule) (text : List Char) : List (List Char × ScannedLine) :=
  (Text.lines (Comment.strip r.delimiters text)).zip (scannedLines r.delimiters text)

/-- The lines that the tracker reads, from a reader on. -/
def trackedFrom (r : Rule) :
    Reader → List (List Char × ScannedLine) → List (List Char × ScannedLine)
  | _, [] => []
  | reader, line :: rest =>
    if reader.tracks r line.1 then line :: trackedFrom r (readLine r reader line.1).1 rest
    else trackedFrom r (readLine r reader line.1).1 rest

/-- The lines of a text that the tracker reads. -/
def tracked (r : Rule) (text : List Char) : List (List Char × ScannedLine) :=
  trackedFrom r .start (scanned r text)

/-- The braces of the same lines that the comment scanner has copied from program text. -/
def copiedBraces (r : Rule) (text : List Char) : List Char :=
  (tracked r text).flatMap fun line => codeBraces line.2.strokes

theorem actedFrom_map_fst (lines : List (List Char × ScannedLine)) :
    ∀ reader, actedFrom r reader (lines.map Prod.fst) =
      (trackedFrom r reader lines).flatMap fun line => Scopes.bracesIn r.delimiters line.1 := by
  induction lines with
  | nil => exact fun reader => rfl
  | cons line rest ih =>
      intro reader
      rw [List.map_cons, actedFrom, trackedFrom, ih, Reader.acted]
      split
      · rw [List.flatMap_cons]
      · rw [List.nil_append]

theorem trackedFrom_sublist (lines : List (List Char × ScannedLine)) :
    ∀ reader, (trackedFrom r reader lines).Sublist lines := by
  induction lines with
  | nil => exact fun reader => List.Sublist.slnil
  | cons line rest ih =>
      intro reader
      rw [trackedFrom]
      split
      · exact (ih _).cons_cons line
      · exact (ih _).cons line

theorem trackedFrom_eq_self (hbraces : r.nesting = .braces) (hblock : r.importBlock = none)
    (lines : List (List Char × ScannedLine)) : ∀ reader, trackedFrom r reader lines = lines := by
  induction lines with
  | nil => exact fun reader => rfl
  | cons line rest ih =>
      intro reader
      rw [trackedFrom, if_pos (by simp [Reader.tracks, hbraces, hblock]), ih]

/-- A line is read without the carriage return of its line break, and an empty last line is not
read at all. -/
theorem exists_lines_eq (hp : r.delimiters.Productive) (text : List Char) :
    ∃ lines last, scannedLines r.delimiters text = lines ++ [last] ∧
      Text.lines (Comment.strip r.delimiters text) =
        lines.map (fun l => Text.dropReturn l.chars) ++
          if last.chars = [] then [] else [last.chars] := by
  obtain ⟨strokes, others, hcons⟩ :=
    Comment.exists_linesFrom_eq_cons .code (Comment.strokes r.delimiters text)
  have hne : scannedLines r.delimiters text ≠ [] := by
    rw [scannedLines, hcons]
    exact List.cons_ne_nil _ _
  obtain ⟨lines, last, hlines⟩ := (List.eq_nil_or_concat _).resolve_left hne
  rw [List.concat_eq_append] at hlines
  refine ⟨lines, last, hlines, ?_⟩
  have hpieces : (Comment.strip r.delimiters text).splitOn '\n' =
      lines.map ScannedLine.chars ++ [last.chars] := by
    rw [← Comment.map_chars_scannedLines hp, hlines, List.map_append, List.map_singleton]
  rw [Text.lines_of_splitOn hpieces, List.map_map]
  rfl

theorem exists_scanned_eq (hp : r.delimiters.Productive) (text : List Char) :
    ∃ lines last, scannedLines r.delimiters text = lines ++ [last] ∧
      scanned r text = lines.map (fun l => (Text.dropReturn l.chars, l)) ++
        if last.chars = [] then [] else [(last.chars, last)] := by
  obtain ⟨lines, last, hlines, hread⟩ := exists_lines_eq hp text
  refine ⟨lines, last, hlines, ?_⟩
  rw [scanned, hlines, hread, List.zip_append (by simp), ← List.map_prod_right_eq_zip]
  split <;> rfl

/-- Every line that is read has its strokes. -/
theorem map_fst_scanned (hp : r.delimiters.Productive) (text : List Char) :
    (scanned r text).map Prod.fst = Text.lines (Comment.strip r.delimiters text) := by
  obtain ⟨lines, last, hlines, hread⟩ := exists_lines_eq hp text
  refine List.map_fst_zip ?_
  rw [hlines, hread]
  split <;> simp

theorem flatMap_codeBraces_scanned (hp : r.delimiters.Productive) (text : List Char) :
    (scanned r text).flatMap (fun line => codeBraces line.2.strokes) =
      codeBraces (Comment.strokes r.delimiters text) := by
  obtain ⟨lines, last, hlines, hscanned⟩ := exists_scanned_eq hp text
  rw [← Comment.flatMap_codeBraces_linesFrom _ .code, ← scannedLines, hlines, hscanned,
    List.flatMap_append, List.flatMap_append, List.flatMap_map, List.flatMap_singleton]
  refine congrArg _ ?_
  split
  · rename_i hlast
    rw [List.map_eq_nil_iff.1 hlast]
    rfl
  · rw [List.flatMap_singleton]

/-- The braces of a line that were copied from program text are those that the tracker finds if it
begins the line where the comment scanner stands. -/
theorem bracesFrom_of_mem_scanned (hd : r.delimiters.Seamless)
    (hquotes : r.delimiters.sparesBraces = true) {text : List Char}
    {line : List Char × ScannedLine} (hline : line ∈ scanned r text) :
    Scopes.bracesFrom r.delimiters line.2.start.quoting line.1 = codeBraces line.2.strokes := by
  have hagree := Comment.scannedLines_agree hd hquotes text
  obtain ⟨lines, last, hlines, hscanned⟩ := exists_scanned_eq hd.productive text
  rw [hlines] at hagree
  rw [hscanned, List.mem_append] at hline
  rcases hline with hline | hline
  · obtain ⟨l, hl, rfl⟩ := List.mem_map.1 hline
    rw [Scopes.bracesFrom_dropReturn]
    exact hagree l (List.mem_append_left _ hl)
  · split at hline
    · exact absurd hline List.not_mem_nil
    · rw [List.mem_singleton] at hline
      subst hline
      exact hagree last (List.mem_append_right _ (List.mem_singleton_self last))

/-- **Braces in string literals do not count, on lines that begin outside of them.**  In a language
that nests by braces, nothing but the braces that the tracker acts on opens or closes a scope.  The
braces of a line that were copied from program text are those that the tracker would find if it
began the line where the comment scanner stands, inside a literal or outside; it always begins
outside.  So if every line that it reads begins outside string literals, the braces that it acts on
are those that were copied from program text, in order.  This is so for every text without escaped
line breaks in a language without quotes of the multi-line kind.  Where there are no groups of
imports, the tracker reads all lines. -/
theorem actedBraces_eq (hr : r ∈ Registry.rules) (hbraces : r.nesting = .braces)
    (text : List Char) :
    (∀ reader line, Reader.acted r reader line = [] →
      (readLine r reader line).1.scopes.opened = reader.scopes.opened) ∧
    (∀ line ∈ scanned r text,
      codeBraces line.2.strokes =
          Scopes.bracesFrom r.delimiters line.2.start.quoting line.1 ∧
        Scopes.bracesIn r.delimiters line.1 = Scopes.bracesFrom r.delimiters .outside line.1) ∧
    ((∀ line ∈ tracked r text, line.2.start.isLiteral = false) →
      actedBraces r text = copiedBraces r text) ∧
    (r.delimiters.multilineQuotes = [] → ¬ ['\\', '\n'] <:+: text →
      actedBraces r text = copiedBraces r text) ∧
    (r.importBlock = none →
      copiedBraces r text = codeBraces (Comment.strokes r.delimiters text)) := by
  have hd := (Registry.delimiters_seamless r hr).1
  have hquotes := Registry.sparesBraces r hr
  have hsub : (tracked r text).Sublist (scanned r text) := trackedFrom_sublist _ _
  have hwhole : (∀ line ∈ tracked r text, line.2.start.isLiteral = false) →
      actedBraces r text = copiedBraces r text := by
    intro hstart
    rw [actedBraces, ← map_fst_scanned hd.productive, actedFrom_map_fst, copiedBraces]
    refine List.flatMap_congr fun line hline => ?_
    have houtside := Comment.Region.quoting_eq_outside (hstart line hline)
    rw [Scopes.bracesIn_eq, ← houtside]
    exact bracesFrom_of_mem_scanned hd hquotes (hsub.subset hline)
  refine ⟨fun reader line => opened_readLine hbraces, ?_, hwhole, ?_, ?_⟩
  · intro line hline
    exact ⟨(bracesFrom_of_mem_scanned hd hquotes hline).symm, Scopes.bracesIn_eq line.1⟩
  · intro hsingle hescape
    refine hwhole fun line hline => ?_
    have hmem := (List.of_mem_zip (hsub.subset hline)).2
    exact Comment.start_of_mem_scannedLines hd hsingle hescape line.2 hmem
  · intro hblock
    rw [copiedBraces, tracked, trackedFrom_eq_self hbraces hblock,
      flatMap_codeBraces_scanned hd.productive]

/-- Braces in literals on one line, of both kinds and with an escaped quote. -/
def quotedBraces : List Char := "if (s == \"\x7b\" + `\x7d`) \x7b f('\\'\x7b'); \x7d\n".toList

theorem actedBraces_eq_quotedBraces :
    (Rule.javaScript ∈ Registry.rules ∧ Rule.javaScript.nesting = .braces) ∧
      copiedBraces Rule.javaScript quotedBraces = "\x7b\x7d".toList ∧
      actedBraces Rule.javaScript quotedBraces = copiedBraces Rule.javaScript quotedBraces := by
  have hr : Rule.javaScript ∈ Registry.rules := Registry.mem_rules_of_rule? (l := .javaScript) rfl
  refine ⟨⟨hr, rfl⟩, by decide +kernel, ?_⟩
  exact (actedBraces_eq hr rfl quotedBraces).2.2.1 (by decide +kernel)

/-- A brace in a template literal over several lines, inside a function. -/
def templateBrace : List Char :=
  "function open() \x7b\n  const s = `\n\x7d\n`;\n  function inner() \x7b\x7d\n\x7d\n".toList

/-- **A brace in a literal that goes on from an earlier line counts.**  The tracker closes the body
of the outer function at the brace in the literal, and so the inner function is taken for a
top-level one.  An escaped line break has this effect in every language that nests by braces. -/
theorem actedBraces_ne :
    copiedBraces Rule.javaScript templateBrace = "\x7b\x7b\x7d\x7d".toList ∧
      actedBraces Rule.javaScript templateBrace = "\x7b\x7d\x7b\x7d\x7d".toList ∧
      (extract .javaScript templateBrace).topLevelFunctions = 2 ∧
      ∀ r ∈ Registry.rules, r.nesting = .braces →
        actedBraces r "\"\\\n\x7d\"".toList ≠ copiedBraces r "\"\\\n\x7d\"".toList := by
  refine ⟨by decide +kernel, by decide +kernel, by decide +kernel, by decide +kernel⟩

end Outline

end SourceAtlas
