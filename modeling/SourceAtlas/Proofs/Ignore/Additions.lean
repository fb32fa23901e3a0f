import SourceAtlas.Proofs.Files.Filter
import SourceAtlas.Proofs.Text.Cut

/-!
# Additions to the rules

A path may be spelled in many ways, and the rules of a scan are put together from several sources.
Neither shows in what is left out.

* `Path.names_key` — the canonical spelling of a path has the same names, and the rules look at
  nothing else (`IgnoreRules.shouldIgnore_key`).
* `IgnoreRules.shouldIgnore_append` — rules put together leave out what either of them does.
* `IgnoreRules.Addition` — the ways to add to rules that are held in place.  An addition puts the
  same rules in whatever stood there before, or none at all (`IgnoreRules.after_eq_append`); so the
  rules after any additions leave out what they did before and what each addition does
  (`IgnoreRules.shouldIgnore_foldl_after`).
* `shouldIgnore_monotone` — what follows for monotonicity, order and failed additions.
-/

namespace SourceAtlas

/-! ## Spellings of a path -/

namespace Path

theorem isName_of_mem_names {path s : String} (h : s ∈ names path) : IsName s := by
  obtain ⟨hmem, hs⟩ := List.mem_filter.1 h
  simp only [Bool.and_eq_true, decide_eq_true_eq] at hs
  exact ⟨hs.1.1, slash_not_mem_of_mem_segments hmem⟩

/-- The canonical spelling of a path has the same names. -/
theorem names_key (path : String) : names (key path) = names path := by
  rw [key, names_ofSegments fun s hs => isName_of_mem_names hs]
  refine List.filter_eq_self.2 fun s hs => ?_
  obtain ⟨-, hs⟩ := List.mem_filter.1 hs
  simp only [Bool.and_eq_true] at hs ⊢
  exact ⟨hs.1.2, hs.2⟩

theorem key_key (path : String) : key (key path) = key path :=
  congrArg ofSegments (names_key path)

theorem names_append_slash (dir name : String) :
    names (dir ++ "/" ++ name) = names dir ++ names name := by
  rw [names, segments_append_slash, List.filter_append]
  rfl

end Path

namespace IgnoreRules

variable {r r' : IgnoreRules}

/-- The rules see only the names on a path. -/
theorem shouldIgnore_key (r : IgnoreRules) (path : String) :
    r.shouldIgnore (Path.key path) = r.shouldIgnore path := by
  unfold shouldIgnore
  rw [Path.names_key]

/-- Where globs are compared with components, what is left out takes everything below with it. -/
theorem shouldIgnore_below (h : r.ByComponents) {path : String} (hpath : r.shouldIgnore path = true)
    (child : String) : r.shouldIgnore (path ++ "/" ++ child) = true := by
  rw [shouldIgnore_of_byComponents h] at hpath ⊢
  rw [Path.names_append_slash, List.any_append, hpath, Bool.true_or]

/-! ## Rules put together -/

/-- The rules of both. -/
def append (r r' : IgnoreRules) : IgnoreRules :=
  ⟨r.dirs ++ r'.dirs, r.files ++ r'.files, r.endings ++ r'.endings, r.globs ++ r'.globs⟩

instance : Append IgnoreRules := ⟨append⟩

theorem append_def (r r' : IgnoreRules) :
    r ++ r' = ⟨r.dirs ++ r'.dirs, r.files ++ r'.files, r.endings ++ r'.endings,
      r.globs ++ r'.globs⟩ := rfl

theorem append_empty (r : IgnoreRules) : r ++ empty = r := by
  simp [append_def, empty]

theorem matchesComponent_append (r r' : IgnoreRules) (name : String) :
    (r ++ r').matchesComponent name = (r.matchesComponent name || r'.matchesComponent name) := by
  simp only [matchesComponent, append_def, List.contains_append, List.any_append]
  ac_rfl

theorem matchesWholePath_append (r r' : IgnoreRules) (path : String) :
    (r ++ r').matchesWholePath path = (r.matchesWholePath path || r'.matchesWholePath path) :=
  List.any_append

/-- Rules put together leave out what either of them does. -/
theorem shouldIgnore_append (r r' : IgnoreRules) (path : String) :
    (r ++ r').shouldIgnore path = (r.shouldIgnore path || r'.shouldIgnore path) := by
  have hnames : (Path.names path).any (r ++ r').matchesComponent =
      ((Path.names path).any r.matchesComponent || (Path.names path).any r'.matchesComponent) := by
    rw [Bool.eq_iff_iff]
    simp only [List.any_eq_true, Bool.or_eq_true, matchesComponent_append, and_or_left, exists_or]
  simp only [shouldIgnore, hnames, matchesWholePath_append, Bool.and_or_distrib_left]
  ac_rfl

theorem byComponents_append : (r ++ r').ByComponents ↔ r.ByComponents ∧ r'.ByComponents := by
  simp [ByComponents, append_def, or_imp, forall_and]

/-! ## Additions -/

/-- Something that can be added to the rules. -/
inductive Addition where
  | dir (name : String)
  | file (name : String)
  | ending (tail : String)
  | glob (text : String)
  deriving DecidableEq, Repr

/-- Makes an addition to rules that are held in place.  A malformed glob is refused. -/
def Addition.make : Addition → EStateM Error IgnoreRules Unit
  | .dir name => modify (·.addDir name)
  | .file name => modify (·.addFile name)
  | .ending tail => modify (·.addEnding tail)
  | .glob text => do
    match (← get).addGlob text with
    | .ok rules => set rules
    | .error e => throw e

/-- The rules that are in place after an addition was made or refused. -/
def after (r : IgnoreRules) (a : Addition) : IgnoreRules :=
  match a.make r with
  | .ok _ rules => rules
  | .error _ rules => rules

/-- The rules that an addition puts in place where there are none. -/
def Addition.alone (a : Addition) : IgnoreRules := empty.after a

theorem make_glob (r : IgnoreRules) (text : String) :
    (Addition.glob text).make r = match r.addGlob text with
      | .ok rules => .ok () rules
      | .error e => .error e r := by
  -- Reading the rules leaves them in place, so what comes next runs on `r` itself.
  change (match r.addGlob text with
    | .ok rules => set rules
    | .error e => throw e : EStateM Error IgnoreRules Unit) r = _
  cases r.addGlob text <;> rfl

/-- Only malformed globs are refused, and then the rules are as they were. -/
theorem make_eq_error_iff {a : Addition} {e : Error} :
    a.make r = .error e r' ↔ r' = r ∧ ∃ text fault, a = .glob text ∧
      Glob.parse text = .error fault ∧ e = .config (.badGlob text fault.message) := by
  cases a with
  | dir name | file name | ending tail =>
      constructor
      · intro hmake
        cases hmake
      · rintro ⟨-, text, fault, hglob, -⟩
        cases hglob
  | glob text =>
      rw [make_glob, addGlob]
      cases hparse : Glob.parse text with
      | ok g =>
          constructor
          · intro hmake
            cases hmake
          · rintro ⟨-, _, fault, hglob, hfault, -⟩
            cases hglob
            cases hparse.symm.trans hfault
      | error fault =>
          simp only [EStateM.Result.error.injEq, Addition.glob.injEq]
          constructor
          · rintro ⟨rfl, rfl⟩
            exact ⟨rfl, text, fault, rfl, hparse, rfl⟩
          · rintro ⟨rfl, _, _, rfl, hfault, rfl⟩
            cases hparse.symm.trans hfault
            exact ⟨rfl, rfl⟩

/-- An addition puts the same rules in, whatever stands there. -/
theorem after_eq_append (r : IgnoreRules) (a : Addition) : r.after a = r ++ a.alone := by
  cases a with
  | dir name =>
      change r.addDir name = r ++ empty.addDir name
      simp [addDir, append_def, empty]
  | file name =>
      change r.addFile name = r ++ empty.addFile name
      simp [addFile, append_def, empty]
  | ending tail =>
      change r.addEnding tail = r ++ empty.addEnding tail
      simp [addEnding, append_def, empty]
  | glob text =>
      simp only [after, Addition.alone, make_glob, addGlob]
      cases Glob.parse text with
      | ok g => simp [append_def, empty]
      | error fault => exact (append_empty r).symm

theorem shouldIgnore_after (r : IgnoreRules) (a : Addition) (path : String) :
    (r.after a).shouldIgnore path = (r.shouldIgnore path || a.alone.shouldIgnore path) := by
  rw [after_eq_append, shouldIgnore_append]

/-- After any additions, a path is left out if it was before or if one of the additions does so. -/
theorem shouldIgnore_foldl_after (r : IgnoreRules) (as : List Addition) (path : String) :
    (as.foldl after r).shouldIgnore path =
      (r.shouldIgnore path || as.any (·.alone.shouldIgnore path)) := by
  induction as generalizing r with
  | nil => simp
  | cons a as ih => rw [List.foldl_cons, ih, shouldIgnore_after, List.any_cons, Bool.or_assoc]

/-- The additions that extend rules by names, endings and globs. -/
def additions (dirs files endings globs : List String) : List Addition :=
  dirs.map .dir ++ files.map .file ++ endings.map .ending ++ globs.map .glob

theorem foldl_after_of_foldlM_addGlob {globs : List String}
    (h : globs.foldlM addGlob r = .ok r') :
    globs.foldl (fun rules glob => rules.after (.glob glob)) r = r' := by
  induction globs generalizing r with
  | nil =>
      cases h
      rfl
  | cons glob globs ih =>
      rw [List.foldlM_cons] at h
      cases hglob : r.addGlob glob with
      | error e =>
          rw [hglob] at h
          cases h
      | ok rules =>
          rw [hglob] at h
          have hafter : r.after (.glob glob) = rules := by simp only [after, make_glob, hglob]
          rw [List.foldl_cons, hafter]
          exact ih h

/-- Extending rules is making additions one after another. -/
theorem foldl_after_of_extend {dirs files endings globs : List String}
    (h : r.extend dirs files endings globs = .ok r') :
    (additions dirs files endings globs).foldl after r = r' := by
  simp only [additions, List.foldl_append, List.foldl_map]
  exact foldl_after_of_foldlM_addGlob h

theorem byComponents_alone {a : Addition} (h : ∀ text, a = .glob text → '/' ∉ text.toList) :
    a.alone.ByComponents := by
  cases a with
  | dir name | file name | ending tail =>
      intro g hg
      cases hg
  | glob text =>
      have hslash : Text.contains text "/" = false := by
        rw [← Bool.not_eq_true, Text.contains_slash]
        exact h text rfl
      simp only [Addition.alone, after, make_glob, addGlob]
      cases Glob.parse text with
      | ok g => simp [ByComponents, empty, hslash]
      | error fault =>
          intro g hg
          cases hg

theorem byComponents_foldl_after {as : List Addition} (hr : r.ByComponents)
    (h : ∀ text, .glob text ∈ as → '/' ∉ text.toList) : (as.foldl after r).ByComponents := by
  induction as generalizing r with
  | nil => exact hr
  | cons a as ih =>
      refine ih ?_ fun text htext => h text (List.mem_cons_of_mem a htext)
      rw [after_eq_append, byComponents_append]
      exact ⟨hr, byComponents_alone fun text ha => h text (ha ▸ List.mem_cons_self)⟩

end IgnoreRules

open IgnoreRules in
/-- **What is left out depends on the names of a path and on the set of the rules.**  All spellings
of a path are treated like its canonical one, which is its own canonical spelling.  What is left out
is still left out after an addition, and it does not matter in which order additions are made; a
configuration extends the rules by such additions.  The only additions that fail are malformed
globs; they fail with an error of the configuration, and the rules are as they were.  As long as no
glob holds a slash, everything below a path that is left out is left out as well. -/
theorem shouldIgnore_monotone (r : IgnoreRules) :
    (∀ path, r.shouldIgnore path = r.shouldIgnore (Path.key path) ∧
      Path.key (Path.key path) = Path.key path) ∧
    (∀ (a : Addition) r' path, a.make r = .ok () r' → r.shouldIgnore path = true →
      r'.shouldIgnore path = true) ∧
    (∀ as bs : List Addition, as.Perm bs → ∀ path,
      (as.foldl after r).shouldIgnore path = (bs.foldl after r).shouldIgnore path) ∧
    (∀ dirs files endings globs r', r.extend dirs files endings globs = .ok r' →
      (additions dirs files endings globs).foldl after r = r') ∧
    (∀ (a : Addition) e r', a.make r = .error e r' ↔ r' = r ∧ ∃ text fault, a = .glob text ∧
      Glob.parse text = .error fault ∧ e = .config (.badGlob text fault.message)) ∧
    (∀ as : List Addition, r.ByComponents → (∀ text, .glob text ∈ as → '/' ∉ text.toList) →
      ∀ path child, (as.foldl after r).shouldIgnore path = true →
        (as.foldl after r).shouldIgnore (path ++ "/" ++ child) = true) := by
  refine ⟨fun path => ⟨(shouldIgnore_key r path).symm, Path.key_key path⟩, ?_, ?_, ?_, ?_, ?_⟩
  · intro a r' path hmake hpath
    have hafter : r' = r.after a := by rw [after, hmake]
    rw [hafter, shouldIgnore_after, hpath, Bool.true_or]
  · intro as bs hperm path
    rw [shouldIgnore_foldl_after, shouldIgnore_foldl_after, hperm.any_eq]
  · exact fun dirs files endings globs r' => foldl_after_of_extend
  · exact fun a e r' => make_eq_error_iff
  · intro as hr hglobs path child hpath
    exact shouldIgnore_below (byComponents_foldl_after hr hglobs) hpath child

open IgnoreRules in
/-- The standard rules with another directory and another glob: what they left out before, a
malformed glob, the two additions in either order, and a file below the directory. -/
theorem shouldIgnore_monotone_vendor :
    (standard.shouldIgnore "./src//build/../main.c" = true ∧
      (Addition.dir "vendor").make standard = .ok () (standard.addDir "vendor") ∧
      (standard.addDir "vendor").shouldIgnore "./src//build/../main.c" = true) ∧
    (Addition.glob "a**").make standard =
      .error (.config (.badGlob "a**" (Glob.Error.message ⟨0, .partialComponent⟩))) standard ∧
    (∀ path, ([.dir "vendor", .glob "*.log"].foldl after standard).shouldIgnore path =
      ([.glob "*.log", .dir "vendor"].foldl after standard).shouldIgnore path) ∧
    (([.dir "vendor", .glob "*.log"].foldl after standard).shouldIgnore "./vendor/" = true ∧
      ([.dir "vendor", .glob "*.log"].foldl after standard).shouldIgnore
        ("./vendor/" ++ "/" ++ "lib.c") = true) := by
  obtain ⟨-, hmore, horder, -, hfails, hbelow⟩ := shouldIgnore_monotone standard
  have hbuild : standard.shouldIgnore "./src//build/../main.c" = true := by decide +kernel
  have hmake : (Addition.dir "vendor").make standard = .ok () (standard.addDir "vendor") := rfl
  have hvendor : ([.dir "vendor", .glob "*.log"].foldl after standard).shouldIgnore "./vendor/" =
      true := by decide +kernel
  refine ⟨⟨hbuild, hmake, hmore _ _ _ hmake hbuild⟩, ?_, ?_, hvendor, ?_⟩
  · exact (hfails _ _ _).2 ⟨rfl, "a**", ⟨0, .partialComponent⟩, rfl, by decide +kernel, rfl⟩
  · exact horder _ _ (List.Perm.swap _ _ _)
  · refine hbelow _ nofun ?_ _ _ hvendor
    intro text htext
    have htext : text = "*.log" := by simpa using htext
    rw [htext]
    decide

end SourceAtlas
