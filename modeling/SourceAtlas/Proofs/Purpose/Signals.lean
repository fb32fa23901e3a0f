import SourceAtlas.Proofs.Text.Cut
import SourceAtlas.Purpose.Classify

/-!
# The signals of a purpose

A purpose shows in a single import, in a single name or in the text, and never in how these stand
together.  So the purposes of a file are collected from its imports and names one by one.

* `Signals.Shows` — where the signals of a purpose show; it is what the classification tests
  (`Signals.show_iff_shows`).
* `mem_classify_iff` — a file has the purposes that show; where none does, it has no particular one.
* `classify_unites` — lists that are put together have the purposes of both, in whatever order and
  however often their members are named, and more to look at never takes a purpose away.
-/

namespace SourceAtlas
namespace Purpose

variable {s : Signals} {e e' : Evidence} {p : Purpose}

/-! ## One import, one name, the text -/

/-- Whether the purpose shows in an import. -/
def Signals.inImport (s : Signals) (name : String) : Bool :=
  s.libraries.any fun library => (importSegments name).any (namesLibrary library)

/-- Whether the purpose shows in a name. -/
def Signals.inName (s : Signals) (name : String) : Bool := s.words.any (nameTokens name).contains

/-- Whether the purpose shows in a text. -/
def Signals.inText (s : Signals) (text : String) : Bool := s.markers.any (Text.contains text)

/-- The places in which a purpose shows. -/
inductive Signals.Shows (s : Signals) (e : Evidence) : Prop
  | byImport {name : String} : name ∈ e.imports → s.inImport name = true → s.Shows e
  | byPath : s.inName e.pathStem = true → s.Shows e
  | byName {name : String} : name ∈ e.classes ++ e.functions → s.inName name = true → s.Shows e
  | byText : s.inText e.text = true → s.Shows e

/-- The parts of all imports are tested together, but each belongs to one import. -/
theorem Signals.any_libraries_iff :
    (s.libraries.any fun library => e.importParts.any (namesLibrary library)) = true ↔
      ∃ name ∈ e.imports, s.inImport name = true := by
  simp only [inImport, Evidence.importParts, List.any_eq_true, List.mem_flatMap]
  constructor
  · rintro ⟨library, hlibrary, part, ⟨name, hname, hpart⟩, hnames⟩
    exact ⟨name, hname, library, hlibrary, part, hpart, hnames⟩
  · rintro ⟨name, hname, library, hlibrary, part, hpart, hnames⟩
    exact ⟨library, hlibrary, part, ⟨name, hname, hpart⟩, hnames⟩

/-- So are the words of the path and of all names. -/
theorem Signals.any_words_iff :
    s.words.any e.words.contains = true ↔
      s.inName e.pathStem = true ∨ ∃ name ∈ e.classes ++ e.functions, s.inName name = true := by
  have hmem : ∀ word, word ∈ e.words ↔ word ∈ nameTokens e.pathStem ∨
      ∃ name ∈ e.classes ++ e.functions, word ∈ nameTokens name := by
    intro word
    rw [Evidence.words, List.mem_append, List.mem_flatMap]
  simp only [inName, List.any_eq_true, List.contains_iff_mem, hmem]
  constructor
  · rintro ⟨word, hword, hstem | ⟨name, hname, htoken⟩⟩
    · exact Or.inl ⟨word, hword, hstem⟩
    · exact Or.inr ⟨name, hname, word, hword, htoken⟩
  · rintro (⟨word, hword, hstem⟩ | ⟨name, hname, word, hword, htoken⟩)
    · exact ⟨word, hword, Or.inl hstem⟩
    · exact ⟨word, hword, Or.inr ⟨name, hname, htoken⟩⟩

theorem Signals.show_iff_shows : s.show e = true ↔ s.Shows e := by
  rw [Signals.show, Bool.or_eq_true, Bool.or_eq_true, any_libraries_iff, any_words_iff]
  constructor
  · rintro ((⟨name, hname, himport⟩ | hpath | ⟨name, hname, hshown⟩) | htext)
    · exact .byImport hname himport
    · exact .byPath hpath
    · exact .byName hname hshown
    · exact .byText htext
  · rintro (⟨hname, himport⟩ | hpath | ⟨hname, hshown⟩ | htext)
    · exact Or.inl (Or.inl ⟨_, hname, himport⟩)
    · exact Or.inl (Or.inr (Or.inl hpath))
    · exact Or.inl (Or.inr (Or.inr ⟨_, hname, hshown⟩))
    · exact Or.inr htext

/-! ## More evidence -/

/-- `e'` is evidence on the same file, with everything in it that `e` has. -/
structure Evidence.Extends (e' e : Evidence) : Prop where
  path : e'.path = e.path
  imports : e.imports ⊆ e'.imports
  names : e.classes ++ e.functions ⊆ e'.classes ++ e'.functions
  text : ∃ front back, e'.text = front ++ e.text ++ back

theorem Signals.Shows.of_extends (hshows : s.Shows e) (h : e'.Extends e) : s.Shows e' := by
  cases hshows with
  | byImport hname himport => exact .byImport (h.imports hname) himport
  | byPath hpath =>
      have hstem : e'.pathStem = e.pathStem := by rw [Evidence.pathStem, Evidence.pathStem, h.path]
      exact .byPath (hstem ▸ hpath)
  | byName hname hshown => exact .byName (h.names hname) hshown
  | byText htext =>
      obtain ⟨front, back, hlonger⟩ := h.text
      obtain ⟨marker, hmarker, hcontains⟩ := List.any_eq_true.1 htext
      refine .byText (List.any_eq_true.2 ⟨marker, hmarker, ?_⟩)
      rw [hlonger]
      exact Text.contains_append hcontains front back

theorem Evidence.extends_of_text_eq (hpath : e'.path = e.path) (htext : e'.text = e.text)
    (himports : e.imports ⊆ e'.imports)
    (hnames : e.classes ++ e.functions ⊆ e'.classes ++ e'.functions) : e'.Extends e :=
  ⟨hpath, himports, hnames, "", "", by simp [htext]⟩

/-- What is known of a file from two sources. -/
def Evidence.unite (e e' : Evidence) : Evidence :=
  ⟨e.path, e.functions ++ e'.functions, e.classes ++ e'.classes, e.imports ++ e'.imports, e.text⟩

theorem Evidence.mem_names_unite {name : String} :
    name ∈ (e.unite e').classes ++ (e.unite e').functions ↔
      name ∈ e.classes ++ e.functions ∨ name ∈ e'.classes ++ e'.functions := by
  simp only [unite, List.mem_append]
  exact or_or_or_comm

/-- What shows in two sources together shows in one of them. -/
theorem Signals.shows_unite_iff (hpath : e'.path = e.path) (htext : e'.text = e.text) :
    s.Shows (e.unite e') ↔ s.Shows e ∨ s.Shows e' := by
  constructor
  · intro h
    cases h with
    | byImport hname himport =>
        rcases List.mem_append.1 hname with hname | hname
        · exact Or.inl (.byImport hname himport)
        · exact Or.inr (.byImport hname himport)
    | byPath hstem => exact Or.inl (.byPath hstem)
    | byName hname hshown =>
        rcases Evidence.mem_names_unite.1 hname with hname | hname
        · exact Or.inl (.byName hname hshown)
        · exact Or.inr (.byName hname hshown)
    | byText hmarkers => exact Or.inl (.byText hmarkers)
  · rintro (h | h)
    · refine h.of_extends (Evidence.extends_of_text_eq rfl rfl ?_ ?_)
      · exact List.subset_append_left _ _
      · exact fun name hname => Evidence.mem_names_unite.2 (Or.inl hname)
    · refine h.of_extends (Evidence.extends_of_text_eq hpath.symm htext.symm ?_ ?_)
      · exact List.subset_append_right _ _
      · exact fun name hname => Evidence.mem_names_unite.2 (Or.inr hname)

/-! ## The purposes of a file -/

theorem mem_shown_iff : p ∈ shown e ↔ ∃ s ∈ signals, s.Shows e ∧ s.purpose = p := by
  simp only [shown, List.mem_map, List.mem_filter, and_assoc, Signals.show_iff_shows]

theorem general_not_mem_shown (e : Evidence) : .general ∉ shown e := by
  have hsignals : ∀ s ∈ signals, s.purpose ≠ .general := by decide
  rw [mem_shown_iff]
  rintro ⟨s, hs, -, hpurpose⟩
  exact hsignals s hs hpurpose

theorem mem_classify_iff :
    p ∈ (classify e).toList ↔ p ∈ shown e ∨ p = .general ∧ shown e = [] := by
  cases hshown : shown e with
  | nil => simp [classify, hshown, Purposes.ofList, Purposes.mem_ofTest]
  | cons first others => simp [classify, hshown, Purposes.ofList, Purposes.mem_ofTest]

/-- A particular purpose is one that some signals show. -/
theorem mem_classify_iff_shows (hp : p ≠ .general) :
    p ∈ (classify e).toList ↔ ∃ s ∈ signals, s.Shows e ∧ s.purpose = p := by
  rw [mem_classify_iff, ← mem_shown_iff]
  exact or_iff_left fun h => hp h.1

/-- A file has no particular purpose exactly if none shows. -/
theorem general_mem_classify_iff : .general ∈ (classify e).toList ↔ shown e = [] := by
  rw [mem_classify_iff]
  constructor
  · rintro (h | ⟨-, h⟩)
    · exact absurd h (general_not_mem_shown e)
    · exact h
  · exact fun h => Or.inr ⟨rfl, h⟩

theorem toList_classify_of_shown_eq_nil (h : shown e = []) : (classify e).toList = [.general] := by
  rw [classify, h]
  rfl

theorem classify_ne_nil (e : Evidence) : (classify e).toList ≠ [] := by
  cases hshown : shown e with
  | nil => simp [toList_classify_of_shown_eq_nil hshown]
  | cons first others =>
      have hfirst : first ∈ (classify e).toList :=
        mem_classify_iff.2 (Or.inl (hshown ▸ List.mem_cons_self))
      exact List.ne_nil_of_mem hfirst

theorem classify_eq_of_extends (h : e'.Extends e) (h' : e.Extends e') :
    classify e = classify e' := by
  have hshow : ∀ s : Signals, s.show e = s.show e' := by
    intro s
    rw [Bool.eq_iff_iff, Signals.show_iff_shows, Signals.show_iff_shows]
    exact ⟨fun hs => hs.of_extends h, fun hs => hs.of_extends h'⟩
  have hshown : shown e = shown e' := by simp only [shown, hshow]
  rw [classify, classify, hshown]

/-- **The purposes of a file are collected from what is known of it.**  They depend only on the path,
the text, the set of the imports and the set of the names, be they names of classes or of functions.
There is always one, and a file that has no particular purpose has no other.  What is known from two
sources together has the particular purposes of both and no others; and no purpose is lost when
imports, names or text are added. -/
theorem classify_unites :
    (∀ e e' : Evidence, e'.path = e.path → e'.text = e.text →
      (∀ name, name ∈ e'.imports ↔ name ∈ e.imports) →
      (∀ name, name ∈ e'.classes ++ e'.functions ↔ name ∈ e.classes ++ e.functions) →
      classify e' = classify e) ∧
    (∀ e, (classify e).toList ≠ [] ∧
      (.general ∈ (classify e).toList ↔ (classify e).toList = [.general])) ∧
    (∀ e e' : Evidence, e'.path = e.path → e'.text = e.text → ∀ p ≠ Purpose.general,
      (p ∈ (classify (e.unite e')).toList ↔
        p ∈ (classify e).toList ∨ p ∈ (classify e').toList)) ∧
    (∀ e e' : Evidence, e'.Extends e → ∀ p ≠ Purpose.general,
      p ∈ (classify e).toList → p ∈ (classify e').toList) := by
  refine ⟨?_, ?_, ?_, ?_⟩
  · intro e e' hpath htext himports hnames
    refine classify_eq_of_extends (Evidence.extends_of_text_eq hpath.symm htext.symm ?_ ?_)
      (Evidence.extends_of_text_eq hpath htext ?_ ?_)
    · exact fun name => (himports name).1
    · exact fun name => (hnames name).1
    · exact fun name => (himports name).2
    · exact fun name => (hnames name).2
  · intro e
    refine ⟨classify_ne_nil e, fun h => ?_, fun h => ?_⟩
    · exact toList_classify_of_shown_eq_nil (general_mem_classify_iff.1 h)
    · rw [h]
      exact List.mem_singleton_self _
  · intro e e' hpath htext p hp
    rw [mem_classify_iff_shows hp, mem_classify_iff_shows hp, mem_classify_iff_shows hp]
    simp only [Signals.shows_unite_iff hpath htext, or_and_right, and_or_left, exists_or]
  · intro e e' h p hp
    rw [mem_classify_iff_shows hp, mem_classify_iff_shows hp]
    rintro ⟨s, hs, hshows, hpurpose⟩
    exact ⟨s, hs, hshows.of_extends h, hpurpose⟩

/-- What imports and functions tell of a file. -/
def loginEvidence : Evidence := ⟨"core.py", ["test_login"], [], ["flask", "redis"], ""⟩

/-- What classes and the same path tell of it. -/
def viewEvidence : Evidence := ⟨"core.py", [], ["UserView"], [], ""⟩

/-- A name that moves to the classes and an import that is repeated; two sources together; and a
text. -/
theorem classify_unites_login :
    (classify loginEvidence).toList = [.serviceEndpoint, .persistence, .test] ∧
    classify ⟨"core.py", [], ["test_login"], ["redis", "flask", "redis"], ""⟩ =
      classify loginEvidence ∧
    .presentation ∈ (classify (loginEvidence.unite viewEvidence)).toList ∧
    .test ∈ (classify { loginEvidence with text := "os.environ" }).toList := by
  obtain ⟨hsets, -, hunite, hmore⟩ := classify_unites
  have hlogin : (classify loginEvidence).toList = [.serviceEndpoint, .persistence, .test] := by
    decide +kernel
  refine ⟨hlogin, ?_, ?_, ?_⟩
  · refine hsets loginEvidence _ rfl rfl (fun name => ?_) fun name => ?_
    · simp only [loginEvidence, List.mem_cons, List.not_mem_nil, or_false]
      rw [or_left_comm, or_self]
    · simp [loginEvidence]
  · have hview : .presentation ∈ (classify viewEvidence).toList := by decide +kernel
    exact (hunite loginEvidence viewEvidence rfl rfl .presentation (by decide)).2 (Or.inr hview)
  · have hextends : ({ loginEvidence with text := "os.environ" } : Evidence).Extends loginEvidence :=
      ⟨rfl, fun _ h => h, fun _ h => h, "os.environ", "", by decide⟩
    refine hmore loginEvidence _ hextends .test (by decide) ?_
    rw [hlogin]
    decide

end Purpose
end SourceAtlas
