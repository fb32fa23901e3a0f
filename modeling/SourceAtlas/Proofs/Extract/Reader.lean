import SourceAtlas.Extract.Outline

/-!
# The reader of lines

What a reader finds in later lines, and how that depends on what it carries along.

* `factsFrom`, `readerAfter` — the facts of lines and the reader behind them, from any reader on
  (`factsFrom_append`).
* `factsFrom_names` — which names are declared and imported depends only on whether a group of
  imports is open.
* `factsFrom_eq_of_above` — also which functions are top-level does not change if there are further
  blocks below the open braces: a block is no type and no function, and a closing brace without an
  open one does nothing.
* `readLine_nil` — an empty line says nothing.
-/

namespace SourceAtlas

/-! ## Scopes -/

namespace Scopes

/-- The scopes `s` are the scopes `t` with further blocks below. -/
def Above (t s : Scopes) : Prop :=
  s.pending = t.pending ∧ ∃ blocks, s.opened = t.opened ++ blocks ∧ ∀ b ∈ blocks, b = Scope.block

variable {s t : Scopes}

theorem above_empty (htop : s.atTopLevel = true) (hpending : s.pending = none) :
    empty.Above s := by
  refine ⟨hpending, s.opened, rfl, ?_⟩
  simpa [atTopLevel] using htop

theorem Above.atTopLevel_eq (h : t.Above s) : s.atTopLevel = t.atTopLevel := by
  obtain ⟨-, blocks, hopened, hblocks⟩ := h
  have hall : blocks.all (· = .block) = true := by simpa using hblocks
  rw [atTopLevel, hopened, List.all_append, hall, Bool.and_true]
  rfl

theorem Above.declare (h : t.Above s) (scope : Scope) : (t.declare scope).Above (s.declare scope) :=
  ⟨rfl, h.2⟩

theorem Above.withoutPending (h : t.Above s) :
    Above { t with pending := none } { s with pending := none } :=
  ⟨rfl, h.2⟩

/-- A closing brace closes the same scope in both, or else a block below. -/
theorem Above.close (h : t.Above s) :
    Above { t with opened := t.opened.tail } { s with opened := s.opened.tail } := by
  obtain ⟨hpending, blocks, hopened, hblocks⟩ := h
  refine ⟨hpending, ?_⟩
  cases ht : t.opened with
  | nil =>
      refine ⟨blocks.tail, ?_, fun b hb => hblocks b (List.mem_of_mem_tail hb)⟩
      rw [hopened, ht]
      rfl
  | cons scope outer => exact ⟨blocks, by rw [hopened, ht]; rfl, hblocks⟩

theorem Above.read (h : t.Above s) (c : Char) : (t.read c).Above (s.read c) := by
  rw [Scopes.read, Scopes.read]
  split
  · obtain ⟨hpending, blocks, hopened, hblocks⟩ := h
    exact ⟨rfl, blocks, by rw [hpending, hopened]; rfl, hblocks⟩
  · split
    · exact h.close
    · split
      · exact h.withoutPending
      · exact h

theorem Above.foldl_read (chars : List Char) :
    ∀ {s t : Scopes}, t.Above s → (chars.foldl Scopes.read t).Above (chars.foldl Scopes.read s) := by
  induction chars with
  | nil => exact fun h => h
  | cons c chars ih => exact fun h => ih (h.read c)

theorem Above.advance (h : t.Above s) (d : Delimiters) (line : List Char) :
    (t.advance d line).Above (s.advance d line) := by
  have hread := Above.foldl_read (unquoted d line) h
  rw [Scopes.advance, Scopes.advance, hread.1]
  split
  · exact hread.withoutPending
  · exact hread

/-- The scopes behind an empty line are those before it, except that nothing may wait any more. -/
theorem advance_nil (d : Delimiters) (s : Scopes) :
    (s.advance d []).opened = s.opened ∧
      (s.pending = none → (s.advance d []).pending = none) := by
  rw [advance]
  split
  · exact ⟨rfl, fun _ => rfl⟩
  · exact ⟨rfl, fun h => h⟩

end Scopes

/-! ## Facts from a reader on -/

namespace Outline

variable {r : Rule}

/-- The facts of lines, in order, from a reader on. -/
def factsFrom (r : Rule) : Reader → List (List Char) → List Fact
  | _, [] => []
  | reader, line :: rest => (readLine r reader line).2 :: factsFrom r (readLine r reader line).1 rest

/-- The reader behind lines. -/
def readerAfter (r : Rule) : Reader → List (List Char) → Reader
  | reader, [] => reader
  | reader, line :: rest => readerAfter r (readLine r reader line).1 rest

theorem factsFrom_append (xs ys : List (List Char)) :
    ∀ reader, factsFrom r reader (xs ++ ys) =
      factsFrom r reader xs ++ factsFrom r (readerAfter r reader xs) ys := by
  induction xs with
  | nil => exact fun reader => rfl
  | cons line xs ih => exact fun reader => congrArg _ (ih _)

theorem readerAfter_append (xs ys : List (List Char)) :
    ∀ reader, readerAfter r reader (xs ++ ys) = readerAfter r (readerAfter r reader xs) ys := by
  induction xs with
  | nil => exact fun reader => rfl
  | cons line xs ih => exact fun reader => ih _

theorem foldl_readLine (lines : List (List Char)) :
    ∀ (reader : Reader) (found : List Fact),
      lines.foldl (fun (reader, facts) line =>
          let (reader', f) := readLine r reader line; (reader', f :: facts)) (reader, found) =
        (readerAfter r reader lines, (factsFrom r reader lines).reverse ++ found) := by
  induction lines with
  | nil => exact fun reader found => rfl
  | cons line lines ih =>
      intro reader found
      rw [List.foldl_cons, ih, factsFrom, readerAfter]
      simp

theorem readLines_eq (r : Rule) (lines : List (List Char)) :
    readLines r lines = (readerAfter r .start lines, (factsFrom r .start lines).reverse) := by
  rw [readLines, foldl_readLine, List.append_nil]

theorem facts_eq_factsFrom (r : Rule) (text : List Char) :
    facts r text = factsFrom r .start (Text.lines (Comment.strip r.delimiters text)) := by
  rw [facts, readLines_eq, List.reverse_reverse]

/-! ## What does not depend on scopes -/

/-- The names in a fact: the type and the function that it declares, and what it imports. -/
def Fact.names (f : Fact) : Option String × Option String × List String :=
  (f.type?, f.function?, f.modules)

theorem fact_names (r : Rule) (scopes scopes' : Scopes) (line : List Char) :
    (fact r scopes line).names = (fact r scopes' line).names := by
  rw [fact, fact]
  split
  · rfl
  · split <;> rfl

/-- One line says the same names to readers that agree on groups of imports, and leaves them
agreeing. -/
theorem readLine_names {reader reader' : Reader} (h : reader.inImports = reader'.inImports)
    (line : List Char) :
    (readLine r reader line).2.names = (readLine r reader' line).2.names ∧
      (readLine r reader line).1.inImports = (readLine r reader' line).1.inImports := by
  cases hblock : r.importBlock with
  | none =>
      simp only [readLine, hblock, readPlain]
      exact ⟨fact_names r _ _ line, h⟩
  | some b =>
      simp only [readLine, hblock, ← h]
      split
      · simp only [readImport]
        split
        · exact ⟨rfl, rfl⟩
        · exact ⟨rfl, h⟩
      · split
        · exact ⟨rfl, rfl⟩
        · exact ⟨fact_names r _ _ line, h⟩

theorem factsFrom_names (lines : List (List Char)) :
    ∀ {reader reader' : Reader}, reader.inImports = reader'.inImports →
      (factsFrom r reader lines).map Fact.names = (factsFrom r reader' lines).map Fact.names := by
  induction lines with
  | nil => exact fun _ => rfl
  | cons line lines ih =>
      intro reader reader' h
      obtain ⟨hnames, himports⟩ := readLine_names h line
      rw [factsFrom, factsFrom, List.map_cons, List.map_cons, hnames, ih himports]

/-! ## What does not depend on blocks below -/

/-- Readers that find the same facts: they agree on groups of imports and, where braces count, one
has further blocks below its open braces. -/
def Reader.Above (r : Rule) (reader' reader : Reader) : Prop :=
  reader.inImports = reader'.inImports ∧
    (r.nesting = .braces → reader'.scopes.Above reader.scopes)

theorem fact_eq_of_above {scopes scopes' : Scopes}
    (h : r.nesting = .braces → scopes'.Above scopes) (line : List Char) :
    fact r scopes line = fact r scopes' line := by
  have htop : isTopLevel r scopes line = isTopLevel r scopes' line := by
    rw [isTopLevel, isTopLevel]
    cases hnesting : r.nesting with
    | indentation => rfl
    | braces => simp only [(h hnesting).atTopLevel_eq]
  rw [fact, fact, htop]

theorem Fact.above_declareIn {scopes scopes' : Scopes} (h : scopes'.Above scopes) (f : Fact) :
    (f.declareIn scopes').Above (f.declareIn scopes) := by
  cases f with
  | typeNamed | functionNamed | memberScope => exact h.declare _
  | importing | importBlockEdge | plain => exact h

theorem readPlain_above {reader reader' : Reader} (h : reader'.Above r reader)
    (line : List Char) :
    (readPlain r reader line).2 = (readPlain r reader' line).2 ∧
      (readPlain r reader' line).1.Above r (readPlain r reader line).1 := by
  have hfact := fact_eq_of_above h.2 line
  refine ⟨hfact, h.1, fun hbraces => ?_⟩
  simp only [readPlain, hfact, if_pos hbraces]
  exact (Fact.above_declareIn (h.2 hbraces) _).advance _ _

theorem readLine_above {reader reader' : Reader} (h : reader'.Above r reader) (line : List Char) :
    (readLine r reader line).2 = (readLine r reader' line).2 ∧
      (readLine r reader' line).1.Above r (readLine r reader line).1 := by
  cases hblock : r.importBlock with
  | none =>
      simp only [readLine, hblock]
      exact readPlain_above h line
  | some b =>
      simp only [readLine, hblock, h.1]
      split
      · simp only [readImport]
        split
        · exact ⟨rfl, rfl, h.2⟩
        · exact ⟨rfl, h⟩
      · split
        · exact ⟨rfl, rfl, h.2⟩
        · exact readPlain_above h line

/-- **Blocks below the open braces change no fact.** -/
theorem factsFrom_eq_of_above (lines : List (List Char)) :
    ∀ {reader reader' : Reader}, reader'.Above r reader →
      factsFrom r reader lines = factsFrom r reader' lines := by
  induction lines with
  | nil => exact fun _ => rfl
  | cons line lines ih =>
      intro reader reader' h
      obtain ⟨hfact, habove⟩ := readLine_above h line
      rw [factsFrom, factsFrom, hfact, ih habove]

/-! ## Groups of imports -/

theorem inImports_readerAfter (hblock : r.importBlock = none) (lines : List (List Char)) :
    ∀ reader : Reader, (readerAfter r reader lines).inImports = reader.inImports := by
  induction lines with
  | nil => exact fun reader => rfl
  | cons line lines ih =>
      intro reader
      rw [readerAfter, ih]
      simp only [readLine, hblock, readPlain]

end Outline

/-- Only one language has groups of imports. -/
theorem Registry.importBlock_eq_none {l : Language} {r : Rule} (hrule : Registry.rule? l = some r)
    (hl : l ≠ .go) : r.importBlock = none := by
  have hall : ∀ r ∈ Registry.rules, r.language ≠ .go → r.importBlock.isNone = true := by
    decide +kernel
  have hlanguage : r.language = l := by simpa using List.find?_some hrule
  have hr := hall r (List.mem_of_find?_eq_some hrule)
  rw [hlanguage] at hr
  exact Option.isNone_iff_eq_none.1 (hr hl)

/-! ## Empty lines -/

/-- No pattern of a rule finds anything in an empty line. -/
def Rule.PassesEmpty (r : Rule) : Prop :=
  r.declaration? r.classes [] = none ∧ r.declaration? r.functions [] = none ∧
    r.imports.findSome? (·.capture? []) = none ∧ r.opensMemberScope [] = false ∧
    r.importBlock.any (·.opensAt []) = false

instance (r : Rule) : Decidable r.PassesEmpty := inferInstanceAs (Decidable (_ ∧ _))

theorem Registry.passesEmpty : ∀ r ∈ Registry.rules, r.PassesEmpty := by
  decide +kernel

namespace Outline

variable {r : Rule}

theorem fact_nil (h : r.PassesEmpty) (scopes : Scopes) : fact r scopes [] = .plain := by
  obtain ⟨hclass, hfunction, himport, hmember, -⟩ := h
  simp only [fact, hclass, hfunction, himport, hmember, Bool.false_eq_true, if_false]

/-- **An empty line says nothing**, opens nothing and closes nothing. -/
theorem readLine_nil (h : r.PassesEmpty) {reader : Reader} (hreader : reader.inImports = false) :
    (readLine r reader []).2 = .plain ∧ (readLine r reader []).1.inImports = false ∧
      (readLine r reader []).1.scopes.opened = reader.scopes.opened ∧
      (reader.scopes.pending = none → (readLine r reader []).1.scopes.pending = none) := by
  have hplain : readLine r reader [] = readPlain r reader [] := by
    cases hblock : r.importBlock with
    | none => simp only [readLine, hblock]
    | some b =>
        have hopens : b.opensAt [] = false := by simpa [hblock] using h.2.2.2.2
        simp only [readLine, hblock, hreader, hopens, Bool.false_eq_true, if_false]
  rw [hplain]
  refine ⟨fact_nil h reader.scopes, hreader, ?_⟩
  simp only [readPlain, fact_nil h, Fact.declareIn]
  split
  · exact Scopes.advance_nil r.delimiters reader.scopes
  · exact ⟨rfl, fun hpending => hpending⟩

end Outline

end SourceAtlas
