import Mathlib.Data.List.Induction
import Mathlib.Data.List.Infix
import SourceAtlas.Proofs.Extract.Concatenation
import SourceAtlas.Proofs.Extract.Matching
import SourceAtlas.Proofs.Pattern.Reach

/-!
# What each line contributes

The outline of a text, said line by line and without a reader that goes through the lines.  What a
line contributes depends on the line and on the lines before it: whether a group of imports is open
there, and for top-level functions which braces are open.

* `Spot` — a line with the lines before it.
* `typeAt?`, `functionAt?`, `modulesAt` — what the line contributes to types, functions and imports.
* `topLevelAt` — whether a function that it declares is judged top-level.
* `FirstOccurrences` — names collected once each, in the order of first occurrence.
* `extract_contributions` — the outline is collected from the contributions.
-/

namespace SourceAtlas

/-! ## Names once each -/

/-- The list `found` holds the names of the list `names`, each once, in the order of their first
occurrences. -/
structure FirstOccurrences (names found : List String) : Prop where
  /-- No name is lost and none is made up. -/
  mem_iff : ∀ name, name ∈ found ↔ name ∈ names
  /-- The names stand in the order of their first occurrences. -/
  increasing : found.Pairwise fun a b => names.idxOf a < names.idxOf b

theorem FirstOccurrences.nodup {names found : List String} (h : FirstOccurrences names found) :
    found.Nodup := by
  refine h.increasing.imp fun hlt heq => ?_
  rw [heq] at hlt
  exact absurd hlt (Nat.lt_irrefl _)

theorem firstOccurrences_eraseDups (names : List String) :
    FirstOccurrences names names.eraseDups := by
  refine ⟨fun name => List.mem_eraseDups, ?_⟩
  induction names using List.reverseRecOn with
  | nil => exact List.Pairwise.nil
  | append_singleton names a ih =>
      have hold : names.eraseDups.Pairwise fun b c =>
          (names ++ [a]).idxOf b < (names ++ [a]).idxOf c := by
        refine ih.imp_of_mem fun {b c} hb hc hlt => ?_
        rw [List.idxOf_append_of_mem (List.mem_eraseDups.1 hb),
          List.idxOf_append_of_mem (List.mem_eraseDups.1 hc)]
        exact hlt
      rw [List.eraseDups_append]
      by_cases ha : a ∈ names
      · simpa [List.removeAll, ha] using hold
      · have hlast : (names ++ [a]).idxOf a = names.length := by
          rw [List.idxOf_append_of_notMem ha]
          simp
        have hnew : ([a].removeAll names).eraseDups = [a] := by
          simp [List.removeAll, ha, List.eraseDups_cons]
        rw [hnew]
        refine List.pairwise_append.2 ⟨hold, List.pairwise_singleton _ _, fun b hb c hc => ?_⟩
        have hb' := List.mem_eraseDups.1 hb
        have hc' : c = a := by simpa using hc
        rw [hc', hlast, List.idxOf_append_of_mem hb']
        exact List.idxOf_lt_length_of_mem hb'

/-! ## Lines and the lines before them -/

namespace Outline

/-- A line with the lines before it. -/
structure Spot where
  /-- The lines before it. -/
  before : List (List Char)
  /-- The line itself. -/
  line : List Char

/-- The lines of a list, each with the lines before it. -/
def spots (lines : List (List Char)) : List Spot := List.zipWith Spot.mk lines.inits lines

theorem zipWith_inits_concat (lines : List (List Char)) (line : List Char) :
    ∀ before, List.zipWith Spot.mk ((lines ++ [line]).inits.map (before ++ ·)) (lines ++ [line]) =
      List.zipWith Spot.mk (lines.inits.map (before ++ ·)) lines ++ [⟨before ++ lines, line⟩] := by
  induction lines with
  | nil => simp
  | cons first lines ih =>
      intro before
      have hrest := ih (before ++ [first])
      simpa [Function.comp_def] using hrest

theorem spots_concat (lines : List (List Char)) (line : List Char) :
    spots (lines ++ [line]) = spots lines ++ [⟨lines, line⟩] := by
  simpa [spots] using zipWith_inits_concat lines line []

/-! ## Contributions -/

/-- The first name that patterns capture in a line; an empty capture and a keyword are no names. -/
def nameBy? (r : Rule) (patterns : List Pattern) (line : List Char) : Option String :=
  (patterns.filterMap (·.groupIn? line)).find? fun name => name ≠ "" ∧ name ∉ r.reserved

/-- The first import pattern that fits a line. -/
def importPattern? (r : Rule) (line : List Char) : Option Pattern :=
  r.imports.find? (·.fits line)

/-- Whether a group of imports is open behind lines: since the last line that closes one, a line has
opened one. -/
def inGroup (b : ImportBlock) (before : List (List Char)) : Bool :=
  (before.reverse.takeWhile fun line => !b.closesAt line).any b.opensAt

/-- Where a line stands with regard to groups of imports. -/
inductive Standing where
  /-- Outside groups of imports. -/
  | outside
  /-- Between the lines that open and close a group. -/
  | inside (b : ImportBlock)
  /-- It opens or closes a group. -/
  | edge

/-- Where the line of a spot stands. -/
def standing (r : Rule) (s : Spot) : Standing :=
  match r.importBlock with
  | none => .outside
  | some b =>
    if inGroup b s.before then
      if b.closesAt s.line then .edge else .inside b
    else if b.opensAt s.line then .edge
    else .outside

/-- The type that a line declares. -/
def typeAt? (r : Rule) (s : Spot) : Option String :=
  match standing r s with
  | .outside => nameBy? r r.classes s.line
  | _ => none

/-- The function that a line declares, unless it declares a type. -/
def functionAt? (r : Rule) (s : Spot) : Option String :=
  match standing r s with
  | .outside =>
    if nameBy? r r.classes s.line = none then nameBy? r r.functions s.line else none
  | _ => none

/-- The modules that a line imports, unless it declares a type or a function. -/
def modulesAt (r : Rule) (s : Spot) : List String :=
  match standing r s with
  | .outside =>
    if nameBy? r r.classes s.line = none ∧ nameBy? r r.functions s.line = none then
      (((importPattern? r s.line).bind (·.groupIn? s.line)).map moduleNames).getD []
    else []
  | .inside b => (b.entry.capture? s.line).toList
  | .edge => []

/-- The body that may open on a line or after it. -/
def bodyOf? (r : Rule) (line : List Char) : Option Scope :=
  if nameBy? r r.classes line ≠ none then some .type
  else if nameBy? r r.functions line ≠ none then some .callable
  else if (importPattern? r line).isNone && r.opensMemberScope line then some .type
  else none

/-- What the tracker of scopes is told about a line. -/
def callsAt (r : Rule) (s : Spot) : List Scopes.Call :=
  match standing r s with
  | .outside => (bodyOf? r s.line).toList.map .declare ++ [.advance s.line]
  | _ => []

/-- The scopes that are open behind lines. -/
def scopesBehind (r : Rule) (before : List (List Char)) : Scopes :=
  Scopes.after r.delimiters .empty ((spots before).flatMap (callsAt r))

/-- Whether a function declared on a line is judged top-level: it begins in the first column, or it
stands outside the bodies of types and functions and is no method. -/
def topLevelAt (r : Rule) (s : Spot) : Bool :=
  match r.nesting with
  | .indentation => !s.line.head?.any Text.isBlank
  | .braces => (scopesBehind r s.before).atTopLevel && !r.isMethod s.line

/-! ## Patterns -/

theorem declaration?_eq_nameBy? (r : Rule) (patterns : List Pattern) (line : List Char) :
    r.declaration? patterns line = nameBy? r patterns line := by
  rw [Rule.declaration?, nameBy?]
  induction patterns with
  | nil => rfl
  | cons p patterns ih =>
      cases hgroup : p.groupIn? line with
      | none => simpa [Pattern.capture?, hgroup] using ih
      | some name =>
          by_cases hname : name = ""
          · simpa [Pattern.capture?, hgroup, hname] using ih
          · by_cases hreserved : name ∈ r.reserved
            · simpa [Pattern.capture?, hgroup, hname, Rule.isReserved, hreserved] using ih
            · simp [Pattern.capture?, hgroup, hname, Rule.isReserved, hreserved]

theorem nameBy?_eq_some {r : Rule} {patterns : List Pattern} {line : List Char} {name : String}
    (h : nameBy? r patterns line = some name) : name ≠ "" ∧ name ∉ r.reserved := by
  simpa using List.find?_some h

theorem findSome?_capture? {patterns : List Pattern} (h : ∀ p ∈ patterns, p.reports = true)
    (line : List Char) :
    patterns.findSome? (·.capture? line) =
      (patterns.find? (·.fits line)).bind (·.groupIn? line) := by
  induction patterns with
  | nil => rfl
  | cons p patterns ih =>
      obtain ⟨hp, hpatterns⟩ := List.forall_mem_cons.1 h
      have hfits := Pattern.fits_eq_isSome_capture? hp line
      cases hcapture : p.capture? line with
      | none =>
          rw [hcapture, Option.isSome_none] at hfits
          simpa [hcapture, hfits] using ih hpatterns
      | some name =>
          rw [hcapture, Option.isSome_some] at hfits
          have hgroup : p.groupIn? line = some name := (Option.filter_eq_some_iff.1 hcapture).1
          simp [hcapture, hfits, hgroup]

end Outline

/-- A rule whose import patterns have a capture wherever they fit, and without lines that both open
and close a group of imports. -/
structure Rule.Sound (r : Rule) : Prop where
  reports : ∀ p ∈ r.imports, p.reports = true
  apart : ∀ b, r.importBlock = some b → ∀ line, b.opensAt line = true → b.closesAt line = false

theorem Registry.imports_report : ∀ r ∈ Registry.rules, ∀ p ∈ r.imports, p.reports = true := by
  decide +kernel

/-- A line that opens a group of imports begins with a word and so does not close one. -/
theorem Rule.go_apart {b : ImportBlock} (hb : Rule.go.importBlock = some b) {line : List Char}
    (h : b.opensAt line = true) : b.closesAt line = false := by
  cases hb
  have hhead : (Text.trimStart line).head? = some 'i' :=
    Pattern.head?_trimStart_of_fits rfl h
  obtain ⟨rest, hrest⟩ := List.head?_eq_some_iff.1 hhead
  rw [ImportBlock.closesAt, hrest]
  rfl

theorem Registry.sound {l : Language} {r : Rule} (hrule : Registry.rule? l = some r) :
    r.Sound := by
  refine ⟨Registry.imports_report r (Registry.mem_rules_of_rule? hrule), fun b hb line h => ?_⟩
  by_cases hl : l = .go
  · subst hl
    have hr : r = Rule.go := (Option.some.inj hrule).symm
    rw [hr] at hb
    exact Rule.go_apart hb h
  · rw [Registry.importBlock_eq_none hrule hl] at hb
    cases hb

namespace Outline

variable {r : Rule} {reader : Reader} {scopes : Scopes}

/-! ## Where the reader stands -/

theorem inGroup_concat {b : ImportBlock}
    (hb : ∀ line, b.opensAt line = true → b.closesAt line = false)
    (before : List (List Char)) (line : List Char) :
    inGroup b (before ++ [line]) =
      if inGroup b before then !b.closesAt line else b.opensAt line := by
  rw [inGroup, List.reverse_append, List.reverse_singleton, List.singleton_append,
    List.takeWhile_cons]
  cases hclose : b.closesAt line with
  | true =>
      -- a line that did both would open a group for the reader, and for `inGroup` only close one
      have hopen : b.opensAt line = false := by
        rw [← Bool.not_eq_true]
        exact fun h => absurd (hb line h) (by simp [hclose])
      simp [hopen]
  | false =>
      rw [Bool.not_false, if_pos rfl, List.any_cons, ← inGroup]
      cases b.opensAt line <;> cases inGroup b before <;> rfl

theorem inImports_readLine {b : ImportBlock} (hb : r.importBlock = some b) (reader : Reader)
    (line : List Char) :
    (readLine r reader line).1.inImports =
      if reader.inImports then !b.closesAt line else b.opensAt line := by
  simp only [readLine, hb, readImport, readPlain]
  cases hin : reader.inImports with
  | true => cases b.closesAt line <;> simp [hin]
  | false => cases b.opensAt line <;> simp

/-- The reader knows whether a group of imports is open. -/
theorem inImports_readerAfter_start (hr : r.Sound) {b : ImportBlock} (hb : r.importBlock = some b)
    (before : List (List Char)) :
    (readerAfter r .start before).inImports = inGroup b before := by
  induction before using List.reverseRecOn with
  | nil => rfl
  | append_singleton before line ih =>
      rw [readerAfter_append, readerAfter, readerAfter, inImports_readLine hb, ih,
        inGroup_concat (hr.apart b hb)]

/-- What a line does to the reader, by where it stands. -/
theorem readLine_cases (hr : r.Sound) (s : Spot) :
    let reader := readerAfter r .start s.before
    (standing r s = .outside ∧ readLine r reader s.line = readPlain r reader s.line) ∨
      (∃ b, standing r s = .inside b ∧ readLine r reader s.line =
        (reader, ((b.entry.capture? s.line).map fun name => .importing [name]).getD .plain)) ∨
      (standing r s = .edge ∧ (readLine r reader s.line).2 = .importBlockEdge ∧
        (readLine r reader s.line).1.scopes = reader.scopes) := by
  cases hblock : r.importBlock with
  | none => exact Or.inl ⟨by simp only [standing, hblock], by simp only [readLine, hblock]⟩
  | some b =>
      simp only [standing, readLine, readImport, hblock, inImports_readerAfter_start hr hblock]
      cases inGroup b s.before with
      | true =>
          cases b.closesAt s.line with
          | true => exact Or.inr (Or.inr ⟨rfl, rfl, rfl⟩)
          | false =>
              refine Or.inr (Or.inl ⟨b, rfl, ?_⟩)
              cases b.entry.capture? s.line <;> rfl
      | false =>
          cases b.opensAt s.line with
          | true => exact Or.inr (Or.inr ⟨rfl, rfl, rfl⟩)
          | false => exact Or.inl ⟨rfl, rfl⟩

/-! ## What the reader finds -/

/-- The fact that the reader finds on a line. -/
def factAt (r : Rule) (s : Spot) : Fact := (readLine r (readerAfter r .start s.before) s.line).2

theorem factsFrom_start (lines : List (List Char)) :
    factsFrom r .start lines = (spots lines).map (factAt r) := by
  induction lines using List.reverseRecOn with
  | nil => rfl
  | append_singleton lines line ih =>
      rw [factsFrom_append, ih, spots_concat, List.map_append]
      rfl

theorem exists_groupIn?_of_importPattern? (hr : r.Sound) {line : List Char} {p : Pattern}
    (h : importPattern? r line = some p) : ∃ list, p.groupIn? line = some list := by
  have hfits : p.fits line = true := by simpa using List.find?_some h
  rw [Pattern.fits_eq_isSome_capture? (hr.reports p (List.mem_of_find?_eq_some h))] at hfits
  obtain ⟨list, hlist⟩ := Option.isSome_iff_exists.1 hfits
  exact ⟨list, (Option.filter_eq_some_iff.1 hlist).1⟩

/-- The fact of a line outside groups of imports, by what the patterns find. -/
theorem fact_cases (hr : r.Sound) (scopes : Scopes) (line : List Char) :
    (∃ name, nameBy? r r.classes line = some name ∧ fact r scopes line = .typeNamed name) ∨
      (nameBy? r r.classes line = none ∧ ∃ name, nameBy? r r.functions line = some name ∧
        fact r scopes line = .functionNamed name (isTopLevel r scopes line)) ∨
      (nameBy? r r.classes line = none ∧ nameBy? r r.functions line = none ∧
        ∃ p list, importPattern? r line = some p ∧ p.groupIn? line = some list ∧
          fact r scopes line = .importing (moduleNames list)) ∨
      (nameBy? r r.classes line = none ∧ nameBy? r r.functions line = none ∧
        importPattern? r line = none ∧
        fact r scopes line = if r.opensMemberScope line then .memberScope else .plain) := by
  rw [fact, declaration?_eq_nameBy?, declaration?_eq_nameBy?, findSome?_capture? hr.reports,
    ← importPattern?]
  cases nameBy? r r.classes line with
  | some name => exact Or.inl ⟨name, rfl, rfl⟩
  | none =>
      cases nameBy? r r.functions line with
      | some name => exact Or.inr (Or.inl ⟨rfl, name, rfl, rfl⟩)
      | none =>
          cases himport : importPattern? r line with
          | none => exact Or.inr (Or.inr (Or.inr ⟨rfl, rfl, rfl, rfl⟩))
          | some p =>
              obtain ⟨list, hlist⟩ := exists_groupIn?_of_importPattern? hr himport
              exact Or.inr (Or.inr (Or.inl ⟨rfl, rfl, p, list, rfl, hlist, by simp [hlist]⟩))

/-! ## Scopes -/

/-- The scopes of a fact's declaration are those of the body that may open. -/
theorem declareIn_fact (hr : r.Sound) (d : Delimiters) (scopes : Scopes) (line : List Char) :
    (fact r scopes line).declareIn scopes =
      Scopes.after d scopes ((bodyOf? r line).toList.map .declare) := by
  rw [bodyOf?]
  rcases fact_cases hr scopes line with ⟨name, hclass, hfact⟩ | ⟨hclass, name, hfunction, hfact⟩ |
      ⟨hclass, hfunction, p, list, himport, hlist, hfact⟩ | ⟨hclass, hfunction, himport, hfact⟩
  · simp [hclass, hfact, Fact.declareIn, Scopes.after, Scopes.call]
  · simp [hclass, hfunction, hfact, Fact.declareIn, Scopes.after, Scopes.call]
  · simp [hclass, hfunction, himport, hfact, Fact.declareIn, Scopes.after]
  · rw [hfact]
    cases hmember : r.opensMemberScope line <;>
      simp [hclass, hfunction, himport, Fact.declareIn, Scopes.after, Scopes.call]

/-- **The reader tracks the scopes behind the lines.** -/
theorem scopes_readerAfter_start (hr : r.Sound) (hbraces : r.nesting = .braces)
    (before : List (List Char)) :
    (readerAfter r .start before).scopes = scopesBehind r before := by
  induction before using List.reverseRecOn with
  | nil => rfl
  | append_singleton before line ih =>
      have hbehind : scopesBehind r (before ++ [line]) =
          Scopes.after r.delimiters (readerAfter r .start before).scopes
            (callsAt r ⟨before, line⟩) := by
        rw [ih, scopesBehind, spots_concat, List.flatMap_append, Scopes.after, List.foldl_append]
        simp [scopesBehind, Scopes.after]
      rw [readerAfter_append, readerAfter, readerAfter, hbehind, callsAt]
      rcases readLine_cases hr ⟨before, line⟩ with ⟨hs, hline⟩ | ⟨b, hs, hline⟩ | ⟨hs, -, hscopes⟩
      · simp only [hs, hline, readPlain, if_pos hbraces, declareIn_fact hr r.delimiters]
        simp [Scopes.after, Scopes.call]
      · simp only [hs, hline]
        rfl
      · simp only [hs, hscopes]
        rfl

theorem isTopLevel_readerAfter_start (hr : r.Sound) (s : Spot) :
    isTopLevel r (readerAfter r .start s.before).scopes s.line = topLevelAt r s := by
  rw [isTopLevel, topLevelAt]
  cases hnesting : r.nesting with
  | indentation => rfl
  | braces => simp only [scopes_readerAfter_start hr hnesting]

/-! ## Facts and contributions -/

/-- The fact that the reader finds on a line, together with what the line contributes. -/
theorem factAt_cases (hr : r.Sound) (s : Spot) :
    (∃ name, factAt r s = .typeNamed name ∧
        typeAt? r s = some name ∧ functionAt? r s = none ∧ modulesAt r s = []) ∨
      (∃ name, factAt r s = .functionNamed name (topLevelAt r s) ∧
        typeAt? r s = none ∧ functionAt? r s = some name ∧ modulesAt r s = []) ∨
      (∃ names, factAt r s = .importing names ∧
        typeAt? r s = none ∧ functionAt? r s = none ∧ modulesAt r s = names) ∨
      ((factAt r s).names = (none, none, []) ∧
        typeAt? r s = none ∧ functionAt? r s = none ∧ modulesAt r s = []) := by
  rw [factAt, typeAt?, functionAt?, modulesAt]
  rcases readLine_cases hr s with ⟨hs, hline⟩ | ⟨b, hs, hline⟩ | ⟨hs, hfact, -⟩
  · rw [hs, hline, readPlain]
    rcases fact_cases hr (readerAfter r .start s.before).scopes s.line with
      ⟨name, hclass, hfact⟩ | ⟨hclass, name, hfunction, hfact⟩ |
      ⟨hclass, hfunction, p, list, himport, hlist, hfact⟩ | ⟨hclass, hfunction, himport, hfact⟩
    · exact Or.inl ⟨name, hfact, by simp [hclass]⟩
    · rw [isTopLevel_readerAfter_start hr] at hfact
      exact Or.inr (Or.inl ⟨name, hfact, by simp [hclass, hfunction]⟩)
    · refine Or.inr (Or.inr (Or.inl ⟨moduleNames list, hfact, ?_⟩))
      simp [hclass, hfunction, himport, hlist]
    · refine Or.inr (Or.inr (Or.inr ⟨?_, by simp [hclass, hfunction, himport]⟩))
      simp only [hfact]
      split <;> rfl
  · rw [hs, hline]
    cases hentry : b.entry.capture? s.line with
    | none => exact Or.inr (Or.inr (Or.inr ⟨rfl, rfl, rfl, by simp [hentry]⟩))
    | some name =>
        exact Or.inr (Or.inr (Or.inl ⟨[name], rfl, rfl, rfl, by simp [hentry]⟩))
  · rw [hs, hfact]
    exact Or.inr (Or.inr (Or.inr ⟨rfl, rfl, rfl, rfl⟩))

/-- The reader finds on a line what the line contributes. -/
theorem names_factAt (hr : r.Sound) (s : Spot) :
    (factAt r s).names = (typeAt? r s, functionAt? r s, modulesAt r s) := by
  rcases factAt_cases hr s with ⟨name, hfact, htype, hfunction, hmodules⟩ |
    ⟨name, hfact, htype, hfunction, hmodules⟩ | ⟨names, hfact, htype, hfunction, hmodules⟩ |
    ⟨hnames, htype, hfunction, hmodules⟩
  · rw [hfact, htype, hfunction, hmodules]
    rfl
  · rw [hfact, htype, hfunction, hmodules]
    rfl
  · rw [hfact, htype, hfunction, hmodules]
    rfl
  · rw [hnames, htype, hfunction, hmodules]

/-- The reader finds those functions top-level that are judged so. -/
theorem topLevelFunction?_factAt_eq_some_iff (hr : r.Sound) (s : Spot) (name : String) :
    (factAt r s).topLevelFunction? = some name ↔
      functionAt? r s = some name ∧ topLevelAt r s = true := by
  have hfunction : (factAt r s).function? = functionAt? r s :=
    congrArg (·.2.1) (names_factAt hr s)
  cases hnone : functionAt? r s with
  | none =>
      rw [hnone] at hfunction
      constructor
      · intro h
        rw [function?_of_topLevelFunction? h] at hfunction
        cases hfunction
      · rintro ⟨h, -⟩
        cases h
  | some name' =>
      have hfact : factAt r s = .functionNamed name' (topLevelAt r s) := by
        rcases factAt_cases hr s with ⟨_, -, -, h, -⟩ | ⟨_, hfact, -, h, -⟩ | ⟨_, -, -, h, -⟩ |
          ⟨-, -, h, -⟩
        · simp [hnone] at h
        · rw [hfact, Option.some.inj (hnone.symm.trans h)]
        · simp [hnone] at h
        · simp [hnone] at h
      rw [hfact]
      cases topLevelAt r s <;> simp [Fact.topLevelFunction?]

/-! ## The outline -/

/-- An outline that is collected from what each line contributes. -/
structure Contributed (r : Rule) (lines : List (List Char)) (o : Outline) : Prop where
  /-- A line contributes to one kind of names at most. -/
  oneKind : ∀ s ∈ spots lines,
    (typeAt? r s ≠ none → functionAt? r s = none ∧ modulesAt r s = []) ∧
      (functionAt? r s ≠ none → modulesAt r s = [])
  /-- The types are the contributed ones. -/
  classes : FirstOccurrences ((spots lines).filterMap (typeAt? r)) o.classes
  /-- The functions are the contributed ones. -/
  functions : FirstOccurrences ((spots lines).filterMap (functionAt? r)) o.functions
  /-- The imports are the contributed ones. -/
  imports : FirstOccurrences ((spots lines).flatMap (modulesAt r)) o.imports
  /-- No name occurs twice. -/
  nodup : o.classes.Nodup ∧ o.functions.Nodup ∧ o.imports.Nodup
  /-- No name is empty. -/
  nonempty : "" ∉ o.classes ∧ "" ∉ o.functions ∧ "" ∉ o.imports
  /-- Types and functions are no keywords. -/
  unreserved : ∀ name ∈ o.classes ++ o.functions, name ∉ r.reserved
  /-- A function counts as top-level if one of its declarations is judged so. -/
  topLevel : o.topLevelFunctions = (o.functions.filter fun name =>
    (spots lines).any fun s => functionAt? r s = some name && topLevelAt r s).length
  /-- There are no more top-level functions than functions. -/
  topLevel_le : o.topLevelFunctions ≤ o.functions.length

theorem typeAt?_eq_some {s : Spot} {name : String} (h : typeAt? r s = some name) :
    name ≠ "" ∧ name ∉ r.reserved := by
  rw [typeAt?] at h
  split at h
  · exact nameBy?_eq_some h
  · cases h

theorem functionAt?_eq_some {s : Spot} {name : String} (h : functionAt? r s = some name) :
    name ≠ "" ∧ name ∉ r.reserved := by
  rw [functionAt?] at h
  split at h
  · split at h
    · exact nameBy?_eq_some h
    · cases h
  · cases h

theorem ne_empty_of_mem_moduleNames {list name : String} (h : name ∈ moduleNames list) :
    name ≠ "" := by
  obtain ⟨item, -, hname⟩ := List.mem_filterMap.1 h
  obtain ⟨word, hword, rfl⟩ := Option.map_eq_some_iff.1 hname
  have hne : word ≠ [] := by simpa using (List.mem_filter.1 (List.mem_of_head? hword)).2
  simpa using hne

theorem ne_empty_of_mem_modulesAt {s : Spot} {name : String} (h : name ∈ modulesAt r s) :
    name ≠ "" := by
  rw [modulesAt] at h
  split at h
  · split at h
    · obtain ⟨names, hnames⟩ : ∃ list, name ∈ moduleNames list := by
        cases hlist : (importPattern? r s.line).bind (·.groupIn? s.line) with
        | none => simp [hlist] at h
        | some list => exact ⟨list, by simpa [hlist] using h⟩
      exact ne_empty_of_mem_moduleNames hnames
    · cases h
  · rename_i b _
    have hentry : b.entry.capture? s.line = some name := by simpa using h
    simpa using (Option.filter_eq_some_iff.1 hentry).2
  · cases h

section Collected

variable {lines : List (List Char)}

theorem filterMap_type? (hr : r.Sound) :
    (factsFrom r .start lines).filterMap Fact.type? = (spots lines).filterMap (typeAt? r) := by
  rw [factsFrom_start, List.filterMap_map]
  exact List.filterMap_congr fun s _ => congrArg (·.1) (names_factAt hr s)

theorem filterMap_function? (hr : r.Sound) :
    (factsFrom r .start lines).filterMap Fact.function? =
      (spots lines).filterMap (functionAt? r) := by
  rw [factsFrom_start, List.filterMap_map]
  exact List.filterMap_congr fun s _ => congrArg (·.2.1) (names_factAt hr s)

theorem flatMap_modules (hr : r.Sound) :
    (factsFrom r .start lines).flatMap Fact.modules = (spots lines).flatMap (modulesAt r) := by
  rw [factsFrom_start, List.flatMap_map]
  exact List.flatMap_congr fun s _ => congrArg (·.2.2) (names_factAt hr s)

/-- The top-level functions are the functions with a declaration that is judged so. -/
theorem length_topLevel (hr : r.Sound) {functions : List String}
    (h : FirstOccurrences ((spots lines).filterMap (functionAt? r)) functions) :
    ((factsFrom r .start lines).filterMap Fact.topLevelFunction?).eraseDups.length =
      (functions.filter fun name =>
        (spots lines).any fun s => functionAt? r s = some name && topLevelAt r s).length := by
  -- neither list holds a name twice, so they are as long as each other if they hold the same names
  have htops := firstOccurrences_eraseDups
    ((factsFrom r .start lines).filterMap Fact.topLevelFunction?)
  refine ((List.perm_ext_iff_of_nodup htops.nodup (h.nodup.filter _)).2 fun name => ?_).length_eq
  rw [htops.mem_iff, factsFrom_start, List.filterMap_map, List.mem_filter, h.mem_iff]
  simp only [List.mem_filterMap, Function.comp_apply, topLevelFunction?_factAt_eq_some_iff hr,
    List.any_eq_true, Bool.and_eq_true, decide_eq_true_eq]
  constructor
  · rintro ⟨s, hs, hfunction, htop⟩
    exact ⟨⟨s, hs, hfunction⟩, s, hs, hfunction, htop⟩
  · rintro ⟨-, hjudged⟩
    exact hjudged

theorem contributed_ofFacts (hr : r.Sound) (lineCount : Nat) :
    Contributed r lines (ofFacts (factsFrom r .start lines) lineCount) := by
  have hclasses : FirstOccurrences ((spots lines).filterMap (typeAt? r))
      (ofFacts (factsFrom r .start lines) lineCount).classes := by
    rw [← filterMap_type? hr]
    exact firstOccurrences_eraseDups _
  have hfunctions : FirstOccurrences ((spots lines).filterMap (functionAt? r))
      (ofFacts (factsFrom r .start lines) lineCount).functions := by
    rw [← filterMap_function? hr]
    exact firstOccurrences_eraseDups _
  have himports : FirstOccurrences ((spots lines).flatMap (modulesAt r))
      (ofFacts (factsFrom r .start lines) lineCount).imports := by
    rw [← flatMap_modules hr]
    exact firstOccurrences_eraseDups _
  have hclass : ∀ name ∈ (ofFacts (factsFrom r .start lines) lineCount).classes,
      name ≠ "" ∧ name ∉ r.reserved := by
    intro name hname
    obtain ⟨s, -, hs⟩ := List.mem_filterMap.1 ((hclasses.mem_iff name).1 hname)
    exact typeAt?_eq_some hs
  have hfunction : ∀ name ∈ (ofFacts (factsFrom r .start lines) lineCount).functions,
      name ≠ "" ∧ name ∉ r.reserved := by
    intro name hname
    obtain ⟨s, -, hs⟩ := List.mem_filterMap.1 ((hfunctions.mem_iff name).1 hname)
    exact functionAt?_eq_some hs
  have htop := length_topLevel hr hfunctions
  refine ⟨?_, hclasses, hfunctions, himports,
    ⟨hclasses.nodup, hfunctions.nodup, himports.nodup⟩, ⟨?_, ?_, ?_⟩, ?_, htop, ?_⟩
  · intro s _
    rcases factAt_cases hr s with ⟨_, -, htype, hnone, hmodules⟩ | ⟨_, -, htype, -, hmodules⟩ |
      ⟨_, -, htype, hnone, -⟩ | ⟨-, htype, hnone, -⟩
    · simp [hnone, hmodules]
    · simp [htype, hmodules]
    · simp [htype, hnone]
    · simp [htype, hnone]
  · exact fun h => (hclass "" h).1 rfl
  · exact fun h => (hfunction "" h).1 rfl
  · intro h
    obtain ⟨s, -, hs⟩ := List.mem_flatMap.1 ((himports.mem_iff "").1 h)
    exact ne_empty_of_mem_modulesAt hs rfl
  · intro name hname
    rcases List.mem_append.1 hname with hname | hname
    · exact (hclass name hname).2
    · exact (hfunction name hname).2
  · exact htop.trans_le (List.length_filter_le _ _)

end Collected

/-- **Outlines are read line by line.**  A language with a rule has an outline that is collected
from what each line of the stripped text contributes; without a rule there are no names and no
top-level functions. -/
theorem extract_contributions (l : Language) (text : List Char) :
    (∀ r, Registry.rule? l = some r →
      Contributed r (Text.lines (Comment.strip r.delimiters text)) (extract l text)) ∧
      (Registry.rule? l = none →
        (extract l text).classes = [] ∧ (extract l text).functions = [] ∧
          (extract l text).imports = [] ∧ (extract l text).topLevelFunctions = 0) := by
  refine ⟨fun r hrule => ?_, fun hrule => ?_⟩
  · rw [extract_eq hrule, facts_eq_factsFrom]
    exact contributed_ofFacts (Registry.sound hrule) _
  · rw [extract, hrule]
    exact ⟨rfl, rfl, rfl, rfl⟩

/-- A group of imports, a function declared twice, a method and a type. -/
def mixedLines : List Char :=
  ("import (\n\t\"a/b\"\n)\nfunc f() \x7b\n\x7d\nfunc f() \x7b\x7d\n" ++
    "func (t T) g() \x7b\x7d\ntype T struct \x7b\x7d\n").toList

theorem extract_contributions_mixedLines :
    Registry.rule? .go = some Rule.go ∧
      (spots (Text.lines (Comment.strip Rule.go.delimiters mixedLines))).filterMap
        (functionAt? Rule.go) = ["f", "f", "g"] ∧
      (extract .go mixedLines).functions = ["f", "g"] ∧
      (extract .go mixedLines).topLevelFunctions = 1 ∧
      Contributed Rule.go (Text.lines (Comment.strip Rule.go.delimiters mixedLines))
        (extract .go mixedLines) ∧
      Registry.rule? .dart = none ∧ (extract .dart mixedLines).functions = [] := by
  obtain ⟨hgo, -⟩ := extract_contributions .go mixedLines
  obtain ⟨-, hdart⟩ := extract_contributions .dart mixedLines
  exact ⟨rfl, by decide +kernel, by decide +kernel, by decide +kernel, hgo Rule.go rfl, rfl,
    (hdart rfl).2.1⟩

end Outline
end SourceAtlas
