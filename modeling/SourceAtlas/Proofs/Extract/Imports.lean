import SourceAtlas.Proofs.Comment.Segments
import SourceAtlas.Proofs.Extract.Concatenation
import SourceAtlas.Proofs.Pattern.Known

/-!
# Quoted imports

What is recorded of a source that imports one quoted path.

A quoted path reaches the reader as it stands: the comment scanner copies the quotation
(`strip_quotation`), no pattern for declarations fits a line that begins as imports do, and the
pattern for imports reports what is quoted (`ImportForm.ReadBy`).  A line with one import is then
taken for a list of modules, `a, b as c`: what is recorded are the first words between commas.  An
entry of a group of imports is not taken for a list.  A quoted path is therefore recorded as it
stands in a group always, and on a line of its own exactly if it has neither commas nor blanks
(`quotedImports_exact`).
-/

namespace SourceAtlas

/-- A test of all characters of a list goes along the list, not along all characters there are. -/
local instance (priority := 2000) decidableAllChars (l : List Char) (p : Char → Prop)
    [DecidablePred p] : Decidable (∀ c ∈ l, p c) :=
  List.decidableBAll p l

/-! ## Quotations survive stripping -/

/-- No comment begins with the character. -/
def Delimiters.opensNothing (d : Delimiters) (c : Char) : Bool :=
  (d.block.map Prod.fst ++ d.line).all fun mark => mark.head?.any (· != c)

theorem Delimiters.noComment_of_opensNothing {d : Delimiters} {c : Char}
    (h : d.opensNothing c = true) (rest : List Char) : d.NoComment (c :: rest) := by
  have hmark : ∀ mark ∈ d.block.map Prod.fst ++ d.line, ¬ mark <+: c :: rest := by
    intro mark hmem hfits
    have hhead := List.all_eq_true.1 h mark hmem
    cases mark with
    | nil => simp at hhead
    | cons c' mark =>
        have hc' : c' = c := (List.cons_prefix_cons.1 hfits).1
        simp [hc'] at hhead
  refine ⟨?_, ?_⟩
  · intro pair hpair
    exact hmark pair.1 (List.mem_append_left _ (List.mem_map_of_mem hpair))
  · intro mark hmem
    exact hmark mark (List.mem_append_right _ hmem)

/-- A path that can stand between quotes or angle brackets on one line. -/
structure Quotable (path : List Char) : Prop where
  ne_nil : path ≠ []
  plain : ∀ c ∈ path, c ≠ '\'' ∧ c ≠ '"' ∧ c ≠ '>' ∧ c ≠ '\\' ∧ c ≠ '\n'

namespace Comment

variable {d : Delimiters}

/-- Program text in which nothing begins is copied. -/
theorem passage_plain {w : List Char}
    (hw : ∀ c ∈ w, d.opensNothing c = true ∧ d.isQuote c = false) (later : List Char) :
    Passage d .code (w ++ later) w .code later := by
  induction w with
  | nil => exact .stay
  | cons c w ih =>
      obtain ⟨hopens, hquote⟩ := hw c (List.mem_cons_self ..)
      have hrest := ih fun c' hc' => hw c' (List.mem_cons_of_mem c hc')
      have hcopy := Move.copyCode (Delimiters.noComment_of_opensNothing hopens (w ++ later)) hquote
      exact .move hcopy hrest

theorem literalBody_of_quotable {path : List Char} {quote : Char}
    (hquote : quote = '\'' ∨ quote = '"') (multiline : Bool)
    (hpath : ∀ c ∈ path, c ≠ '\'' ∧ c ≠ '"' ∧ c ≠ '>' ∧ c ≠ '\\' ∧ c ≠ '\n') :
    LiteralBody quote multiline path := by
  induction path with
  | nil => exact .nil
  | cons c path ih =>
      obtain ⟨hsingle, hdouble, -, hbackslash, hbreak⟩ := hpath c (List.mem_cons_self ..)
      have hrest := ih fun c' hc' => hpath c' (List.mem_cons_of_mem c hc')
      refine .plain hbackslash ?_ (fun hc => absurd hc hbreak) hrest
      rcases hquote with rfl | rfl
      · exact hsingle
      · exact hdouble

/-- A quoted path behind plain program text is copied. -/
theorem strip_quotation (hp : d.Productive) {w path later : List Char} {quote : Char}
    (hw : ∀ c ∈ w, d.opensNothing c = true ∧ d.isQuote c = false)
    (hquote : quote = '\'' ∨ quote = '"') (hopens : d.opensNothing quote = true)
    (hisQuote : d.isQuote quote = true) (hpath : Quotable path) (hlater : strip d later = later) :
    strip d (w ++ quote :: (path ++ quote :: later)) = w ++ quote :: (path ++ quote :: later) := by
  have hliteral : IsLiteral d quote path later :=
    { isQuote := hisQuote
      ne_backslash := by rcases hquote with rfl | rfl <;> decide
      noComment := Delimiters.noComment_of_opensNothing hopens _
      inside := literalBody_of_quotable hquote _ hpath.plain }
  have hpassage := (passage_plain hw (quote :: path ++ quote :: later)).trans hliteral.passage
  have hstrip : strip d (w ++ quote :: (path ++ quote :: later)) =
      w ++ (quote :: path ++ [quote]) ++ strip d later := by
    rw [strip_eq_emitted hp, strip_eq_emitted hp]
    exact emitted_passage hp hpassage
  rw [hstrip, hlater]
  simp

end Comment

/-! ## Forms of imports -/

/-- A line that imports one quoted path. -/
structure ImportForm where
  /-- The language of the line. -/
  language : Language
  /-- What stands before the quotation. -/
  head : String
  /-- The quote on both sides of the path. -/
  quote : Char

namespace ImportForm

/-- The line up to and with the first quote. -/
def known (f : ImportForm) : List Char := f.head.toList ++ [f.quote]

/-- The whole line. -/
def source (f : ImportForm) (path : List Char) : List Char := f.known ++ (path ++ [f.quote])

theorem source_eq (f : ImportForm) (path : List Char) :
    f.source path = f.head.toList ++ f.quote :: (path ++ [f.quote]) := by
  rw [source, known, List.append_assoc, List.singleton_append]

/-- The forms in which languages import files by quoted paths. -/
def all : List ImportForm :=
  [⟨.javaScript, "import ", '\''⟩, ⟨.typeScript, "import ", '\''⟩, ⟨.c, "#include ", '"'⟩,
   ⟨.cpp, "#include ", '"'⟩, ⟨.ruby, "require ", '\''⟩, ⟨.php, "require ", '\''⟩,
   ⟨.go, "import ", '"'⟩]

/-- A form is a line of plain program text with a string literal at its end. -/
def WrittenIn (f : ImportForm) (d : Delimiters) : Prop :=
  (∀ c ∈ f.head.toList, c ≠ '\n' ∧ d.opensNothing c = true ∧ d.isQuote c = false) ∧
    (f.quote = '\'' ∨ f.quote = '"') ∧ d.opensNothing f.quote = true ∧ d.isQuote f.quote = true

instance (f : ImportForm) (d : Delimiters) : Decidable (f.WrittenIn d) :=
  inferInstanceAs (Decidable (_ ∧ _))

/-- A rule finds the import in a form, and nothing else. -/
structure ReadBy (f : ImportForm) (r : Rule) : Prop where
  rule : Registry.rule? f.language = some r
  written : f.WrittenIn r.delimiters
  declaresNothing : ∀ p ∈ r.classes ++ r.functions, p.shuns f.known = true
  opensNoGroup : ∀ b ∈ r.importBlock, b.opener.shuns f.known = true
  imports : ∀ path, Quotable path →
    r.imports.findSome? (·.capture? (f.source path)) = some (String.ofList path)

variable {f : ImportForm} {r : Rule} {path : List Char}

theorem declaration?_of_shuns {patterns : List Pattern} {known : List Char}
    (h : ∀ p ∈ patterns, p.shuns known = true) (tail : List Char) :
    r.declaration? patterns (known ++ tail) = none := by
  have hnone : patterns.filterMap (·.capture? (known ++ tail)) = [] := by
    rw [List.filterMap_eq_nil_iff]
    exact fun p hp => Pattern.capture?_of_shuns (h p hp) tail
  rw [Rule.declaration?, hnone]
  rfl

theorem ReadBy.fact_source (h : f.ReadBy r) (hpath : Quotable path) (scopes : Scopes) :
    Outline.fact r scopes (f.source path) =
      .importing (Outline.moduleNames (String.ofList path)) := by
  have hclasses : r.declaration? r.classes (f.source path) = none :=
    declaration?_of_shuns (fun p hp => h.declaresNothing p (List.mem_append_left _ hp)) _
  have hfunctions : r.declaration? r.functions (f.source path) = none :=
    declaration?_of_shuns (fun p hp => h.declaresNothing p (List.mem_append_right _ hp)) _
  rw [Outline.fact, hclasses, hfunctions, h.imports path hpath]

theorem ReadBy.readLine_source (h : f.ReadBy r) (hpath : Quotable path) :
    (Outline.readLine r .start (f.source path)).2 =
      .importing (Outline.moduleNames (String.ofList path)) := by
  have hplain : (Outline.readPlain r .start (f.source path)).2 =
      .importing (Outline.moduleNames (String.ofList path)) := h.fact_source hpath _
  cases hblock : r.importBlock with
  | none =>
      simp only [Outline.readLine, hblock]
      exact hplain
  | some b =>
      have hopens : b.opensAt (f.source path) = false :=
        Pattern.fits_of_shuns (h.opensNoGroup b (by rw [hblock]; rfl)) _
      simp only [Outline.readLine, hblock, hopens]
      exact hplain

theorem ReadBy.strip_source (h : f.ReadBy r) (hpath : Quotable path) :
    Comment.strip r.delimiters (f.source path) = f.source path := by
  have hr := Registry.mem_rules_of_rule? h.rule
  have hp := (Registry.delimiters_seamless r hr).1.productive
  obtain ⟨hplain, hquote, hopens, hisQuote⟩ := h.written
  have hlater : Comment.strip r.delimiters [] = [] := rfl
  rw [source_eq]
  exact Comment.strip_quotation hp (fun c hc => (hplain c hc).2) hquote hopens hisQuote hpath hlater

/-- The source is one line. -/
theorem ReadBy.lines_source (h : f.ReadBy r) (hpath : Quotable path) :
    Text.lines (f.source path) = [f.source path] := by
  have hbreak : '\n' ∉ f.source path := by
    have hquote : '\n' ≠ f.quote := by rcases h.written.2.1 with hq | hq <;> rw [hq] <;> decide
    simp only [source, known, List.mem_append, List.mem_singleton, not_or]
    refine ⟨⟨fun hmem => (h.written.1 _ hmem).1 rfl, hquote⟩, fun hmem => ?_, hquote⟩
    exact (hpath.plain _ hmem).2.2.2.2 rfl
  have hpieces : (f.source path).splitOn '\n' = [] ++ [f.source path] :=
    List.splitOn_eq_singleton hbreak
  rw [Text.lines_of_splitOn hpieces, if_neg (by simp [source])]
  rfl

/-- What is recorded of a line that imports one quoted path: the first words between its commas. -/
theorem ReadBy.imports_extract (h : f.ReadBy r) (hpath : Quotable path) :
    (Outline.extract f.language (f.source path)).imports =
      (Outline.moduleNames (String.ofList path)).eraseDups := by
  have hfacts : Outline.facts r (f.source path) =
      [.importing (Outline.moduleNames (String.ofList path))] := by
    rw [Outline.facts_eq_factsFrom, h.strip_source hpath, h.lines_source hpath, Outline.factsFrom,
      Outline.factsFrom, h.readLine_source hpath]
  rw [Outline.extract_eq h.rule, hfacts]
  simp [Outline.ofFacts, Outline.Fact.modules]

/-! ## The rules of the forms -/

/-- Every character of a quotable path belongs to a class that leaves out quotes and the closing
angle bracket only. -/
theorem all_except (hpath : Quotable path) {chars : String}
    (hchars : ∀ c ∈ chars.toList, c = '\'' ∨ c = '"' ∨ c = '>') :
    path.all (Pattern.except chars) = true := by
  rw [List.all_eq_true]
  intro c hc
  obtain ⟨hsingle, hdouble, hangle, -⟩ := hpath.plain c hc
  simp only [Pattern.except, Bool.not_eq_true', List.contains_eq_mem, decide_eq_false_iff_not]
  intro hmem
  rcases hchars c hmem with rfl | rfl | rfl
  · exact hsingle rfl
  · exact hdouble rfl
  · exact hangle rfl

open Pattern in
/-- A rule reads a form if all its patterns but one pattern for imports shun the form, and this one
comes to the quotation. -/
theorem ReadBy.of_imports (hrule : Registry.rule? f.language = some r)
    (earlier ps : List Pattern) (first : Pattern) (chars : String) (last : Pattern)
    (later : List Pattern)
    (himports : r.imports =
      earlier ++ line (ps ++ [first, captured [many1 (except chars)], last]) :: later)
    (hfirst : first.Reads f.quote) (hlast : last.Reads f.quote)
    (hchecked : f.WrittenIn r.delimiters ∧
      (∀ p ∈ r.classes ++ r.functions ++ earlier, p.shuns f.known = true) ∧
      (∀ b ∈ r.importBlock, b.opener.shuns f.known = true) ∧
      ((line ps).ways (Cursor.start f.known)).bind
        (fun places => places.head?.map Cursor.rest) = some [f.quote] ∧
      f.quote ∈ chars.toList ∧ ∀ c ∈ chars.toList, c = '\'' ∨ c = '"' ∨ c = '>') :
    f.ReadBy r := by
  obtain ⟨hwritten, hshuns, hgroup, hknown, hquote, hchars⟩ := hchecked
  refine ⟨hrule, hwritten, fun p hp => hshuns p (List.mem_append_left _ hp), hgroup, ?_⟩
  intro path hpath
  have hends : except chars f.quote = false := by simpa [except] using hquote
  have hcapture := capture?_quotation hknown hfirst hlast hends hpath.ne_nil
    (all_except hpath hchars) []
  have hearlier : earlier.findSome? (·.capture? (f.source path)) = none := by
    rw [List.findSome?_eq_none_iff]
    exact fun p hp => capture?_of_shuns (hshuns p (List.mem_append_right _ hp)) _
  rw [himports, List.findSome?_append, hearlier, List.findSome?_cons]
  simp only [source, hcapture]
  rfl

open Pattern in
/-- What a script reads before the quotation. -/
def scriptHead : List Pattern :=
  [keyword "import", optionalKeyword "type",
   optional [fewest (except "'\""), gap, text "from", gap]]

open Pattern in
/-- What an inclusion reads before the quotation. -/
def includeHead : List Pattern := [text "#", blanks, text "include", blanks]

open Pattern in
/-- Every form is read by the rule of its language. -/
theorem exists_readBy : ∀ f ∈ all, ∃ r, f.ReadBy r := by
  have hdouble : (text "\"").Reads '"' := reads_all_singleton (reads_one rfl)
  simp only [all, List.forall_mem_cons, List.not_mem_nil, false_implies, implies_true, and_true]
  refine ⟨⟨Rule.javaScript, ?_⟩, ⟨Rule.typeScript, ?_⟩, ⟨Rule.c, ?_⟩, ⟨Rule.cpp, ?_⟩,
    ⟨Rule.ruby, ?_⟩, ⟨Rule.php, ?_⟩, ⟨Rule.go, ?_⟩⟩
  · exact .of_imports rfl [] scriptHead (oneOf "'\"") "'\"" (oneOf "'\"") _ rfl (reads_one rfl)
      (reads_one rfl) (by decide +kernel)
  · exact .of_imports rfl [] scriptHead (oneOf "'\"") "'\"" (oneOf "'\"") _ rfl (reads_one rfl)
      (reads_one rfl) (by decide +kernel)
  · exact .of_imports rfl [] includeHead (oneOf "<\"") ">\"" (oneOf ">\"") _ rfl (reads_one rfl)
      (reads_one rfl) (by decide +kernel)
  · exact .of_imports rfl [] includeHead (oneOf "<\"") ">\"" (oneOf ">\"") _ rfl (reads_one rfl)
      (reads_one rfl) (by decide +kernel)
  · exact .of_imports rfl [Rule.rubyLoad "require_relative"]
      [text "require", blanks, optional [text "("], blanks]
      (oneOf "'\"") "'\"" (oneOf "'\"") _ rfl (reads_one rfl) (reads_one rfl) (by decide +kernel)
  · exact .of_imports rfl (Rule.php.imports.take 1)
      [anyText ["require", "require_once", "include", "include_once"], blanks,
        optional [text "("], blanks, optional [text "__DIR__", blanks, text ".", blanks]]
      (oneOf "'\"") "'\"" (oneOf "'\"") _ rfl (reads_one rfl) (reads_one rfl) (by decide +kernel)
  · exact .of_imports rfl [] [keyword "import", optional [many1 (wordOr "."), gap]]
      (text "\"") "\"" (text "\"") _ rfl hdouble hdouble (by decide +kernel)

end ImportForm

/-! ## Groups of imports -/

namespace Outline

variable {r : Rule} {b : ImportBlock} {path : List Char}

/-- The facts of a group with one entry. -/
theorem factsFrom_group (hblock : r.importBlock = some b) {opening entry closing : List Char}
    {name : String} (hopens : b.opensAt opening = true) (hstays : b.closesAt entry = false)
    (hentry : b.entry.capture? entry = some name) (hcloses : b.closesAt closing = true) :
    factsFrom r .start [opening, entry, closing] =
      [.importBlockEdge, .importing [name], .importBlockEdge] := by
  simp [factsFrom, readLine, readImport, Reader.start, hblock, hopens, hstays, hentry, hcloses]

/-- The line of a group that holds a path. -/
def entryLine (path : List Char) : List Char := ['"'] ++ (path ++ ['"'])

/-- A group with one quoted path between its first and its last line. -/
def groupOf (opening path closing : List Char) : List Char :=
  opening ++ '\n' :: (entryLine path ++ '\n' :: closing)

theorem strip_groupOf {d : Delimiters} (hp : d.Productive) {opening closing : List Char}
    (hopening : ∀ c ∈ opening ++ ['\n'], d.opensNothing c = true ∧ d.isQuote c = false)
    (hquote : d.opensNothing '"' = true ∧ d.isQuote '"' = true) (hpath : Quotable path)
    (hclosing : Comment.strip d ('\n' :: closing) = '\n' :: closing) :
    Comment.strip d (groupOf opening path closing) = groupOf opening path closing := by
  have hgroup : groupOf opening path closing =
      (opening ++ ['\n']) ++ '"' :: (path ++ '"' :: '\n' :: closing) := by
    simp [groupOf, entryLine]
  rw [hgroup]
  exact Comment.strip_quotation hp hopening (Or.inr rfl) hquote.1 hquote.2 hpath hclosing

theorem lines_groupOf {opening closing : List Char} (hopening : '\n' ∉ opening)
    (hreturn : Text.dropReturn opening = opening) (hpath : Quotable path)
    (hclosing : '\n' ∉ closing) (hne : closing ≠ []) :
    Text.lines (groupOf opening path closing) = [opening, entryLine path, closing] := by
  have hbreak : '\n' ∉ entryLine path := by
    simp only [entryLine, List.mem_append, List.mem_singleton, not_or]
    exact ⟨by decide, fun hmem => (hpath.plain _ hmem).2.2.2.2 rfl, by decide⟩
  have hreturn' : Text.dropReturn (entryLine path) = entryLine path := by
    refine if_neg ?_
    rw [entryLine, ← List.append_assoc, List.getLast?_concat]
    decide
  have hpieces : (groupOf opening path closing).splitOn '\n' =
      [opening, entryLine path] ++ [closing] := by
    rw [groupOf, List.splitOn_append_cons_self, List.splitOn_append_cons_self,
      List.splitOn_eq_singleton hopening, List.splitOn_eq_singleton hbreak,
      List.splitOn_eq_singleton hclosing]
    rfl
  rw [Text.lines_of_splitOn hpieces, List.map_cons, List.map_cons, hreturn, hreturn', if_neg hne]
  rfl

open Pattern in
theorem capture?_entryLine (hpath : Quotable path) :
    (line Rule.goImported).capture? (entryLine path) = some (String.ofList path) := by
  have hdouble : (text "\"").Reads '"' := reads_all_singleton (reads_one rfl)
  have hknown : ((line [optional [many1 (wordOr "."), gap]]).ways (Cursor.start ['"'])).bind
      (fun places => places.head?.map Cursor.rest) = some ['"'] := by decide +kernel
  have hall : path.all (except "\"") = true := ImportForm.all_except hpath (by decide)
  exact capture?_quotation hknown hdouble hdouble rfl hpath.ne_nil hall []

/-- A group of imports with one quoted path. -/
def importGroup (path : List Char) : List Char := groupOf "import (".toList path ")".toList

/-- An entry of a group of imports is recorded as it stands. -/
theorem imports_importGroup (hpath : Quotable path) :
    (extract .go (importGroup path)).imports = [String.ofList path] := by
  have hr := Registry.mem_rules_of_rule? (l := .go) (r := Rule.go) rfl
  have hp := (Registry.delimiters_seamless Rule.go hr).1.productive
  have hstrip : Comment.strip Rule.go.delimiters (importGroup path) = importGroup path :=
    strip_groupOf hp (by decide +kernel) (by decide +kernel) hpath (by decide +kernel)
  have hlines : Text.lines (importGroup path) =
      ["import (".toList, entryLine path, ")".toList] :=
    lines_groupOf (by decide) (by decide) hpath (by decide) (by decide)
  have hfacts : facts Rule.go (importGroup path) =
      [.importBlockEdge, .importing [String.ofList path], .importBlockEdge] := by
    rw [facts_eq_factsFrom, hstrip, hlines]
    exact factsFrom_group rfl (by decide +kernel) rfl (capture?_entryLine hpath) (by decide +kernel)
  rw [extract_eq (r := Rule.go) rfl, hfacts]
  rfl

end Outline

/-! ## Lists of modules -/

/-- The pieces between separators hold characters of the text that are no separators. -/
theorem Text.mem_of_mem_splitOnP {p : Char → Bool} (text : List Char) :
    ∀ piece ∈ text.splitOnP p, ∀ c ∈ piece, c ∈ text ∧ p c = false := by
  induction text with
  | nil => simp
  | cons a text ih =>
      intro piece hpiece c hc
      rw [List.splitOnP_cons_eq_if_modifyHead] at hpiece
      by_cases ha : p a = true
      · rw [if_pos ha, List.mem_cons] at hpiece
        rcases hpiece with rfl | hpiece
        · cases hc
        · obtain ⟨hmem, hsep⟩ := ih piece hpiece c hc
          exact ⟨List.mem_cons_of_mem a hmem, hsep⟩
      · rw [if_neg ha] at hpiece
        obtain ⟨first, others, hsplit⟩ := List.exists_cons_of_ne_nil (List.splitOnP_ne_nil p text)
        rw [hsplit] at hpiece ih
        rcases List.mem_cons.1 hpiece with rfl | hother
        · rcases List.mem_cons.1 hc with rfl | hc
          · exact ⟨List.mem_cons_self .., by simpa using ha⟩
          · obtain ⟨hmem, hsep⟩ := ih first (List.mem_cons_self ..) c hc
            exact ⟨List.mem_cons_of_mem a hmem, hsep⟩
        · obtain ⟨hmem, hsep⟩ := ih piece (List.mem_cons_of_mem first hother) c hc
          exact ⟨List.mem_cons_of_mem a hmem, hsep⟩

namespace Outline

/-- The names in a list of modules have neither commas nor blanks. -/
theorem plain_of_mem_moduleNames {list name : String} (h : name ∈ moduleNames list) :
    ∀ c ∈ name.toList, c ≠ ',' ∧ Text.isBlank c = false := by
  obtain ⟨item, hitem, hname⟩ := List.mem_filterMap.1 h
  obtain ⟨word, hword, rfl⟩ := Option.map_eq_some_iff.1 hname
  intro c hc
  rw [String.toList_ofList] at hc
  have hwords : word ∈ item.splitOnP Text.isBlank :=
    (List.mem_filter.1 (List.mem_of_head? hword)).1
  obtain ⟨hmem, hblank⟩ := Text.mem_of_mem_splitOnP item word hwords c hc
  have hcomma := (Text.mem_of_mem_splitOnP list.toList item hitem c hmem).2
  exact ⟨by simpa using hcomma, hblank⟩

/-- A name without commas and blanks is a list of one module. -/
theorem moduleNames_of_plain {path : List Char} (hne : path ≠ [])
    (h : ∀ c ∈ path, c ≠ ',' ∧ Text.isBlank c = false) :
    moduleNames (String.ofList path) = [String.ofList path] := by
  have hitems : path.splitOn ',' = [path] :=
    List.splitOn_eq_singleton fun hmem => (h _ hmem).1 rfl
  have hwords : Text.words path = [path] := by
    rw [Text.words, List.splitOnP_eq_singleton fun c hc => (h c hc).2]
    simpa using hne
  rw [moduleNames, String.toList_ofList, hitems]
  simp [hwords]

/-- A list of modules is one name as it stands exactly if it has neither commas nor blanks. -/
theorem eraseDups_moduleNames_eq_iff {path : List Char} (hne : path ≠ []) :
    (moduleNames (String.ofList path)).eraseDups = [String.ofList path] ↔
      ∀ c ∈ path, c ≠ ',' ∧ Text.isBlank c = false := by
  constructor
  · intro h
    have hmem : String.ofList path ∈ (moduleNames (String.ofList path)).eraseDups := by
      rw [h]
      exact List.mem_singleton_self _
    have hplain := plain_of_mem_moduleNames (List.mem_eraseDups.1 hmem)
    rwa [String.toList_ofList] at hplain
  · intro h
    rw [moduleNames_of_plain hne h]
    rfl

/-- **What is recorded of a quoted path.**  A line that imports one quoted path is taken for a list
of modules, so the path is recorded as it stands exactly if it has neither commas nor blanks.  An
entry of a group of imports is recorded as it stands always. -/
theorem quotedImports_exact {path : List Char} (hpath : Quotable path) :
    (∀ f ∈ ImportForm.all,
      (extract f.language (f.source path)).imports =
          (moduleNames (String.ofList path)).eraseDups ∧
        ((extract f.language (f.source path)).imports = [String.ofList path] ↔
          ∀ c ∈ path, c ≠ ',' ∧ Text.isBlank c = false)) ∧
      (extract .go (importGroup path)).imports = [String.ofList path] := by
  refine ⟨?_, imports_importGroup hpath⟩
  intro f hf
  obtain ⟨r, hread⟩ := ImportForm.exists_readBy f hf
  have himports := hread.imports_extract hpath
  refine ⟨himports, ?_⟩
  rw [himports]
  exact eraseDups_moduleNames_eq_iff hpath.ne_nil

/-- A path with comment markers in it is recorded as it stands. -/
theorem quotedImports_exact_markers :
    Quotable "../a//b/*#.h".toList ∧
      (∀ f ∈ ImportForm.all,
        (extract f.language (f.source "../a//b/*#.h".toList)).imports = ["../a//b/*#.h"]) ∧
      (extract .go (importGroup "../a//b/*#.h".toList)).imports = ["../a//b/*#.h"] := by
  have hpath : Quotable "../a//b/*#.h".toList := ⟨by decide, by decide⟩
  obtain ⟨hforms, hgroup⟩ := quotedImports_exact hpath
  exact ⟨hpath, fun f hf => (hforms f hf).2.2 (by decide), hgroup⟩

/-- A path with a blank is recorded as it stands in a group, but only its first word on a line of
its own. -/
theorem quotedImports_blank :
    Quotable "my dir/pkg".toList ∧
      (extract .go (ImportForm.source ⟨.go, "import ", '"'⟩ "my dir/pkg".toList)).imports = ["my"] ∧
      (extract .go (importGroup "my dir/pkg".toList)).imports = ["my dir/pkg"] := by
  exact ⟨⟨by decide, by decide⟩, by decide +kernel, by decide +kernel⟩

end Outline

end SourceAtlas
