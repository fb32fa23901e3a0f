import Mathlib.Data.List.Basic
import SourceAtlas.Proofs.Comment.Seam
import SourceAtlas.Proofs.Extract.Reader

/-!
# Outlines of texts in two parts

The outline of two texts with a line break between them is put together from the outlines of the
two, provided that nothing is open where they meet: no comment or string literal, no group of
imports and, for the number of top-level functions, no body of a type or a function.

* `lines_append_break` — the lines of the whole are the lines of the parts, perhaps with an empty
  line between them;
* `eraseDups_append_eraseDups` — names can be collected part by part;
* `facts_append_break` — the facts of the whole are the facts of the parts, the second read from
  where the first left off;
* `extract_append_break` — the main result.
-/

namespace SourceAtlas

/-! ## Lines -/

namespace Text

theorem suffix_intercalate (separator last : List Char) (pieces : List (List Char)) :
    last <:+ separator.intercalate (pieces ++ [last]) := by
  induction pieces with
  | nil => simp
  | cons piece pieces ih =>
      rw [List.cons_append, List.intercalate_cons_of_ne_nil (by simp)]
      exact ih.trans (List.suffix_append _ _)

/-- A text is cut into pieces, the last of which stands at its end. -/
theorem splitOn_eq_append_last (x : List Char) :
    ∃ pieces last, x.splitOn '\n' = pieces ++ [last] ∧ last <:+ x := by
  have hne : x.splitOn '\n' ≠ [] := by simp
  refine ⟨_, _, (List.dropLast_concat_getLast hne).symm, ?_⟩
  have hsuffix := suffix_intercalate ['\n'] ((x.splitOn '\n').getLast hne) (x.splitOn '\n').dropLast
  rwa [List.dropLast_concat_getLast hne, List.intercalate_splitOn] at hsuffix

theorem lines_of_splitOn {x last : List Char} {pieces : List (List Char)}
    (h : x.splitOn '\n' = pieces ++ [last]) :
    lines x = pieces.map dropReturn ++ if last = [] then [] else [last] := by
  rw [lines, h]
  simp only [List.dropLast_concat, List.getLast?_concat]
  cases last <;> rfl

/-- The lines of two texts with a line break between them; if the first is empty or ends with a
line break, there is an empty line between theirs. -/
theorem lines_append_break {x : List Char} (h : x.getLast? ≠ some '\r') :
    ∃ gap, (gap = [] ∨ gap = [[]]) ∧ ∀ y, lines (x ++ '\n' :: y) = lines x ++ gap ++ lines y := by
  obtain ⟨pieces, last, hx, hsuffix⟩ := splitOn_eq_append_last x
  have hreturn : dropReturn last = last := by
    refine if_neg fun hlast => h ?_
    obtain ⟨front, rfl⟩ := hsuffix
    rw [List.getLast?_append, hlast]
    rfl
  refine ⟨if last = [] then [[]] else [], by split <;> simp, fun y => ?_⟩
  obtain ⟨pieces', last', hy, -⟩ := splitOn_eq_append_last y
  have hwhole : (x ++ '\n' :: y).splitOn '\n' = (pieces ++ last :: pieces') ++ [last'] := by
    rw [List.splitOn_append_cons_self, hx, hy]
    simp
  rw [lines_of_splitOn hwhole, lines_of_splitOn hx, lines_of_splitOn hy, List.map_append,
    List.map_cons, hreturn]
  by_cases hlast : last = []
  · simp [hlast]
  · simp [hlast]

end Text

/-! ## Names without repetitions -/

section Names

variable {α : Type} [BEq α] [LawfulBEq α]

theorem eraseDups_filter (p : α → Bool) :
    ∀ l : List α, (l.filter p).eraseDups = l.eraseDups.filter p
  | [] => rfl
  | a :: l => by
      have hlt : (l.filter fun b => !b == a).length < l.length + 1 :=
        Nat.lt_succ_of_le (List.length_filter_le _ _)
      have hrest := eraseDups_filter p (l.filter fun b => !b == a)
      rw [List.filter_filter] at hrest
      rw [List.eraseDups_cons]
      by_cases ha : p a = true
      · rw [List.filter_cons_of_pos ha, List.filter_cons_of_pos ha, List.eraseDups_cons, ← hrest,
          List.filter_filter]
        simp only [Bool.and_comm]
      · rw [List.filter_cons_of_neg ha, List.filter_cons_of_neg ha, ← hrest]
        refine congrArg List.eraseDups (List.filter_congr fun b _ => ?_)
        by_cases hb : b = a
        · simp [hb, ha]
        · simp [hb]
  termination_by l => l.length

theorem eraseDups_eraseDups : ∀ l : List α, l.eraseDups.eraseDups = l.eraseDups
  | [] => rfl
  | a :: l => by
      have hlt : (l.filter fun b => !b == a).length < l.length + 1 :=
        Nat.lt_succ_of_le (List.length_filter_le _ _)
      rw [List.eraseDups_cons, List.eraseDups_cons, ← eraseDups_filter, List.filter_filter,
        eraseDups_eraseDups (l.filter _)]
      simp
  termination_by l => l.length

theorem removeAll_eraseDups (l m : List α) : l.removeAll m.eraseDups = l.removeAll m := by
  rw [List.removeAll, List.removeAll]
  refine List.filter_congr fun a _ => ?_
  simp [List.mem_eraseDups]

/-- Names can be collected part by part. -/
theorem eraseDups_append_eraseDups (l m : List α) :
    (l.eraseDups ++ m.eraseDups).eraseDups = (l ++ m).eraseDups := by
  rw [List.eraseDups_append, List.eraseDups_append, eraseDups_eraseDups, removeAll_eraseDups,
    List.removeAll, List.removeAll, eraseDups_filter, eraseDups_filter, eraseDups_eraseDups]

/-- Without common names, the numbers of names add up. -/
theorem length_eraseDups_append {l m : List α} (h : ∀ a ∈ l, a ∉ m) :
    (l ++ m).eraseDups.length = l.eraseDups.length + m.eraseDups.length := by
  have hremove : m.removeAll l = m := by
    rw [List.removeAll, List.filter_eq_self]
    intro a ha
    simpa using fun hl => h a hl ha
  rw [List.eraseDups_append, hremove, List.length_append]

end Names

/-! ## Facts -/

namespace Outline

/-- The reader at the end of a text. -/
def readerOf (r : Rule) (text : List Char) : Reader :=
  (readLines r (Text.lines (Comment.strip r.delimiters text))).1

theorem readerOf_eq (r : Rule) (text : List Char) :
    readerOf r text = readerAfter r .start (Text.lines (Comment.strip r.delimiters text)) := by
  rw [readerOf, readLines_eq]

/-- A line break after a text closes everything but braces: it stands in program text, it is all of
the line break, and no group of imports is open. -/
structure Closes (r : Rule) (a : List Char) : Prop where
  code : (Comment.scan r.delimiters (a ++ ['\n'])).region = .code
  noReturn : (Comment.strip r.delimiters a).getLast? ≠ some '\r'
  noImports : (readerOf r a).inImports = false

variable {r : Rule} {a : List Char}

/-- The facts of two texts with a line break between them: those of the first, perhaps an empty
line, and those of the second, read from where the first left off. -/
theorem facts_append_break (hr : r ∈ Registry.rules) (ha : Closes r a) (b : List Char) :
    ∃ reader gap, (∀ f ∈ gap, f = Fact.plain) ∧
      facts r (a ++ '\n' :: b) =
        facts r a ++ gap ++ factsFrom r reader (Text.lines (Comment.strip r.delimiters b)) ∧
      reader.inImports = false ∧ reader.scopes.opened = (readerOf r a).scopes.opened ∧
      ((readerOf r a).scopes.pending = none → reader.scopes.pending = none) := by
  obtain ⟨hseamless, hunbroken⟩ := Registry.delimiters_seamless r hr
  obtain ⟨gap, hgap, hlines⟩ := Text.lines_append_break ha.noReturn
  simp only [facts_eq_factsFrom, Comment.strip_append_break hseamless hunbroken ha.code, hlines,
    List.append_assoc, factsFrom_append]
  rw [← readerOf_eq]
  rcases hgap with rfl | rfl
  · exact ⟨readerOf r a, [], by simp, rfl, ha.noImports, rfl, fun h => h⟩
  · obtain ⟨hfact, hreader⟩ := readLine_nil (Registry.passesEmpty r hr) ha.noImports
    exact ⟨(readLine r (readerOf r a) []).1, [.plain], by simp, by rw [← hfact]; rfl, hreader⟩

theorem flatMap_append_gap {β : Type} {collect : Fact → List β} (hplain : collect .plain = [])
    {gap : List Fact} (hgap : ∀ f ∈ gap, f = Fact.plain) (before after : List Fact) :
    (before ++ gap ++ after).flatMap collect = before.flatMap collect ++ after.flatMap collect := by
  have hnothing : gap.flatMap collect = [] := by
    rw [List.flatMap_eq_nil_iff]
    intro f hf
    rw [hgap f hf, hplain]
  rw [List.flatMap_append, List.flatMap_append, hnothing, List.append_nil]

/-- What is collected by the names of facts alone is collected part by part. -/
theorem collect_append_break {β : Type} (hr : r ∈ Registry.rules) (ha : Closes r a) (b : List Char)
    (collect : Option String × Option String × List String → List β)
    (hplain : collect Fact.plain.names = []) :
    (facts r (a ++ '\n' :: b)).flatMap (fun f => collect f.names) =
      (facts r a).flatMap (fun f => collect f.names) ++
        (facts r b).flatMap (fun f => collect f.names) := by
  obtain ⟨reader, gap, hgap, hfacts, hreader, -⟩ := facts_append_break hr ha b
  have himports : reader.inImports = Reader.start.inImports := hreader
  have hnames := @factsFrom_names r (Text.lines (Comment.strip r.delimiters b)) _ _ himports
  rw [hfacts, flatMap_append_gap hplain hgap, facts_eq_factsFrom r b]
  simp only [← List.flatMap_map Fact.names collect, hnames]

/-- If no body is open where the texts meet, the facts of the second are those that it has alone. -/
theorem facts_append_break_of_topLevel (hr : r ∈ Registry.rules) (ha : Closes r a)
    (hbraces : r.nesting = .braces →
      (readerOf r a).scopes.atTopLevel = true ∧ (readerOf r a).scopes.pending = none)
    (b : List Char) :
    ∃ gap, (∀ f ∈ gap, f = Fact.plain) ∧
      facts r (a ++ '\n' :: b) = facts r a ++ gap ++ facts r b := by
  obtain ⟨reader, gap, hgap, hfacts, hreader, hopened, hpending⟩ := facts_append_break hr ha b
  have habove : Reader.start.Above r reader := by
    refine ⟨hreader, fun hnesting => ?_⟩
    obtain ⟨htop, hnone⟩ := hbraces hnesting
    refine Scopes.above_empty ?_ (hpending hnone)
    rw [Scopes.atTopLevel, hopened]
    exact htop
  exact ⟨gap, hgap, by rw [hfacts, factsFrom_eq_of_above _ habove, facts_eq_factsFrom r b]⟩

/-! ## Outlines -/

theorem extract_eq {l : Language} (hrule : Registry.rule? l = some r) (text : List Char) :
    extract l text = ofFacts (facts r text) (Text.countLines text) := by
  rw [extract, hrule]

theorem function?_of_topLevelFunction? {f : Fact} {name : String}
    (h : f.topLevelFunction? = some name) : f.function? = some name := by
  cases f with
  | functionNamed name' topLevel =>
      cases topLevel with
      | true => exact h
      | false => cases h
  | _ => cases h

/-- A top-level function is one of the functions. -/
theorem mem_functions_of_topLevel {facts : List Fact} {name : String}
    (h : name ∈ facts.filterMap Fact.topLevelFunction?) :
    name ∈ (facts.filterMap Fact.function?).eraseDups := by
  obtain ⟨f, hf, hname⟩ := List.mem_filterMap.1 h
  rw [List.mem_eraseDups]
  exact List.mem_filterMap.2 ⟨f, hf, function?_of_topLevelFunction? hname⟩

theorem countLines_append_break (a b : List Char) :
    Text.countLines (a ++ '\n' :: b) = Text.countLines a + Text.countLines b := by
  simp only [Text.countLines, List.count_append, List.count_cons_self]
  omega

theorem noImports_of_go {l : Language} (hrule : Registry.rule? l = some r)
    (hgo : l = .go → (readerOf r a).inImports = false) : (readerOf r a).inImports = false := by
  by_cases hl : l = .go
  · exact hgo hl
  · rw [readerOf_eq, inImports_readerAfter (Registry.importBlock_eq_none hrule hl)]
    rfl

/-- **Outlines are put together part by part.**  Let a line break after the text `a` stand in program
text, be all of the line break, and leave no group of imports open.  Then the names of `a`, the line
break and `b` are those of `a` and of `b`, each once, and the numbers of lines add up.  So do the
numbers of top-level functions, if the two texts declare different functions and, where braces
count, no body is open or waiting at the end of `a`. -/
theorem extract_append_break {l : Language} {r : Rule} (hrule : Registry.rule? l = some r)
    (a b : List Char) (hcode : (Comment.scan r.delimiters (a ++ ['\n'])).region = .code)
    (hreturn : (Comment.strip r.delimiters a).getLast? ≠ some '\r')
    (hgo : l = .go → (readerOf r a).inImports = false) :
    (extract l (a ++ '\n' :: b)).classes =
        ((extract l a).classes ++ (extract l b).classes).eraseDups ∧
      (extract l (a ++ '\n' :: b)).functions =
        ((extract l a).functions ++ (extract l b).functions).eraseDups ∧
      (extract l (a ++ '\n' :: b)).imports =
        ((extract l a).imports ++ (extract l b).imports).eraseDups ∧
      (extract l (a ++ '\n' :: b)).lineCount = (extract l a).lineCount + (extract l b).lineCount ∧
      ((∀ name ∈ (extract l a).functions, name ∉ (extract l b).functions) →
        (r.nesting = .braces →
          (readerOf r a).scopes.atTopLevel = true ∧ (readerOf r a).scopes.pending = none) →
        (extract l (a ++ '\n' :: b)).topLevelFunctions =
          (extract l a).topLevelFunctions + (extract l b).topLevelFunctions) := by
  have hr := Registry.mem_rules_of_rule? hrule
  have ha : Closes r a := ⟨hcode, hreturn, noImports_of_go hrule hgo⟩
  simp only [extract_eq hrule, ofFacts, eraseDups_append_eraseDups]
  refine ⟨?_, ?_, ?_, countLines_append_break a b, ?_⟩
  · simp only [List.filterMap_eq_flatMap_toList]
    exact congrArg _ (collect_append_break hr ha b (fun names => names.1.toList) rfl)
  · simp only [List.filterMap_eq_flatMap_toList]
    exact congrArg _ (collect_append_break hr ha b (fun names => names.2.1.toList) rfl)
  · exact congrArg _ (collect_append_break hr ha b (fun names => names.2.2) rfl)
  · intro hdisjoint hbraces
    obtain ⟨gap, hgap, hfacts⟩ := facts_append_break_of_topLevel hr ha hbraces b
    have htop : (facts r (a ++ '\n' :: b)).filterMap Fact.topLevelFunction? =
        (facts r a).filterMap Fact.topLevelFunction? ++
          (facts r b).filterMap Fact.topLevelFunction? := by
      rw [hfacts]
      simp only [List.filterMap_eq_flatMap_toList]
      exact flatMap_append_gap rfl hgap _ _
    rw [htop]
    refine length_eraseDups_append fun name hname hname' => ?_
    exact hdisjoint name (mem_functions_of_topLevel hname) (mem_functions_of_topLevel hname')

/-- A group of imports, a function, and a block that is left open. -/
def openPart : List Char :=
  "import (\n\t\"fmt\"\n)\nfunc f() \x7b\n\x7d\n\x7b // a block".toList

/-- One closing brace too many, and a function. -/
def closingPart : List Char := "\x7d\n\x7d\nfunc g() \x7b\n\x7d\n".toList

/-- Neither the block nor the brace too many has an influence on the functions. -/
theorem extract_append_break_parts :
    (Comment.scan Rule.go.delimiters (openPart ++ ['\n'])).region = .code ∧
      (Comment.strip Rule.go.delimiters openPart).getLast? ≠ some '\r' ∧
      (readerOf Rule.go openPart).inImports = false ∧
      (readerOf Rule.go openPart).scopes = ⟨[.block], none⟩ ∧
      (extract .go (openPart ++ '\n' :: closingPart)).functions =
        ((extract .go openPart).functions ++ (extract .go closingPart).functions).eraseDups ∧
      (extract .go (openPart ++ '\n' :: closingPart)).topLevelFunctions =
        (extract .go openPart).topLevelFunctions + (extract .go closingPart).topLevelFunctions := by
  have hcode : (Comment.scan Rule.go.delimiters (openPart ++ ['\n'])).region = .code := by
    decide +kernel
  have hreturn : (Comment.strip Rule.go.delimiters openPart).getLast? ≠ some '\r' := by
    decide +kernel
  have himports : (readerOf Rule.go openPart).inImports = false := by decide +kernel
  have hscopes : (readerOf Rule.go openPart).scopes = ⟨[.block], none⟩ := by decide +kernel
  have hdisjoint : ∀ name ∈ (extract .go openPart).functions,
      name ∉ (extract .go closingPart).functions := by decide +kernel
  have hparts := extract_append_break (l := .go) (r := Rule.go) rfl openPart closingPart hcode
    hreturn fun _ => himports
  obtain ⟨-, hfunctions, -, -, htop⟩ := hparts
  exact ⟨hcode, hreturn, himports, hscopes, hfunctions,
    htop hdisjoint fun _ => by rw [hscopes]; exact ⟨rfl, rfl⟩⟩

end Outline

end SourceAtlas
