import Mathlib.Data.List.Flatten
import SourceAtlas.Proofs.Files.Walk

/-!
# The walk and the rules agree

The rules speak of paths, and the walk asks them about every entry on its way down.  Without
gitignore files it finds the files that the rules do not leave out, themselves or through one of the
directories that hold them, as long as all of these can be listed (`Walk.reaches_file_iff`).

* `IgnoreRules.ByComponents` — no glob is compared with whole paths; then a rule that leaves out a
  directory leaves out everything below it, and not entering the directory loses nothing
  (`IgnoreRules.shouldIgnore_of_take`);
* `IgnoreRules.Covers` — rules that contain others leave out whatever those do;
* `Walk.nodeVisits_sublist` — a walk that leaves out more comes upon less;
* `walkFrom_agrees` — what a walk finds, in terms of the rules, and that it finds less with more
  rules or with gitignore files;
* `walkFrom_disagrees` — a walk that passes a directory over, and one whose files share a key.
-/

namespace SourceAtlas

/-! ## Rules -/

namespace IgnoreRules

variable {r r' : IgnoreRules}

/-- No glob is compared with whole paths. -/
def ByComponents (r : IgnoreRules) : Prop := ∀ g ∈ r.globs, g.wholePath = false

/-- `r'` has all the rules of `r`. -/
structure Covers (r' r : IgnoreRules) : Prop where
  dirs : r.dirs ⊆ r'.dirs
  files : r.files ⊆ r'.files
  endings : r.endings ⊆ r'.endings
  globs : r.globs ⊆ r'.globs

/-- `r'` is `r` with one more rule. -/
inductive Adds (r : IgnoreRules) : IgnoreRules → Prop
  | dir (name : String) : Adds r (r.addDir name)
  | file (name : String) : Adds r (r.addFile name)
  | ending (ending : String) : Adds r (r.addEnding ending)
  | glob {glob : String} {r' : IgnoreRules} : r.addGlob glob = .ok r' → Adds r r'

theorem addGlob_eq_ok_iff {glob : String} :
    r.addGlob glob = .ok r' ↔ ∃ g, Glob.parse glob = .ok g ∧
      r' = { r with globs := r.globs ++ [⟨g, Text.contains glob "/"⟩] } := by
  rw [addGlob]
  cases Glob.parse glob <;> simp [eq_comm]

/-- Globs are compared with components exactly if they hold no slash. -/
theorem byComponents_addGlob {glob : String} (h : r.addGlob glob = .ok r') :
    r'.ByComponents ↔ r.ByComponents ∧ Text.contains glob "/" = false := by
  obtain ⟨g, -, rfl⟩ := addGlob_eq_ok_iff.1 h
  simp [ByComponents, or_imp, forall_and]

theorem Adds.covers (h : r.Adds r') : r'.Covers r := by
  cases h with
  | dir name => constructor <;> simp [addDir]
  | file name => constructor <;> simp [addFile]
  | ending ending => constructor <;> simp [addEnding]
  | glob hglob =>
      obtain ⟨g, -, rfl⟩ := addGlob_eq_ok_iff.1 hglob
      constructor <;> simp

theorem Covers.matchesComponent (h : r'.Covers r) {name : String}
    (hname : r.matchesComponent name = true) : r'.matchesComponent name = true := by
  simp only [IgnoreRules.matchesComponent, Bool.or_eq_true, List.contains_iff_mem, List.any_eq_true]
    at hname ⊢
  rcases hname with ((hdir | hfile) | ⟨ending, hending, hends⟩) | ⟨g, hg, hfits⟩
  · exact Or.inl (Or.inl (Or.inl (h.dirs hdir)))
  · exact Or.inl (Or.inl (Or.inr (h.files hfile)))
  · exact Or.inl (Or.inr ⟨ending, h.endings hending, hends⟩)
  · exact Or.inr ⟨g, h.globs hg, hfits⟩

theorem Covers.matchesWholePath (h : r'.Covers r) {path : String}
    (hpath : r.matchesWholePath path = true) : r'.matchesWholePath path = true := by
  obtain ⟨g, hg, hfits⟩ := List.any_eq_true.1 hpath
  exact List.any_eq_true.2 ⟨g, h.globs hg, hfits⟩

/-- Rules that contain others leave out whatever those do. -/
theorem Covers.shouldIgnore (h : r'.Covers r) {path : String}
    (hpath : r.shouldIgnore path = true) : r'.shouldIgnore path = true := by
  simp only [IgnoreRules.shouldIgnore, Bool.or_eq_true, Bool.and_eq_true, List.any_eq_true]
    at hpath ⊢
  rcases hpath with ⟨name, hname, hmatch⟩ | ⟨hne, hmatch⟩
  · exact Or.inl ⟨name, hname, h.matchesComponent hmatch⟩
  · exact Or.inr ⟨hne, h.matchesWholePath hmatch⟩

theorem shouldIgnore_of_byComponents (h : r.ByComponents) (path : String) :
    r.shouldIgnore path = (Path.names path).any r.matchesComponent := by
  have hwhole : ∀ path, r.matchesWholePath path = false := by
    intro path
    refine List.any_eq_false.2 fun g hg => ?_
    simp [h g hg]
  simp [shouldIgnore, hwhole]

theorem shouldIgnore_empty (r : IgnoreRules) : r.shouldIgnore (Path.ofSegments []) = false := by
  simp [shouldIgnore, Path.names_ofSegments]

theorem shouldIgnore_of_empty (path : String) : empty.shouldIgnore path = false := by
  simp [shouldIgnore, IgnoreRules.matchesComponent, IgnoreRules.matchesWholePath, empty]

/-- Where globs are compared with components, what holds a path back holds back everything below. -/
theorem shouldIgnore_of_take (h : r.ByComponents) {names : List String}
    (hnames : ∀ s ∈ names, Path.IsName s) {n : Nat}
    (hn : r.shouldIgnore (Path.ofSegments (names.take n)) = true) :
    r.shouldIgnore (Path.ofSegments names) = true := by
  rw [shouldIgnore_of_byComponents h] at hn ⊢
  rw [Path.names_ofSegments fun s hs => hnames s (List.mem_of_mem_take hs)] at hn
  rw [Path.names_ofSegments hnames]
  obtain ⟨s, hs, hmatch⟩ := List.any_eq_true.1 hn
  exact List.any_eq_true.2 ⟨s, ((List.take_sublist n names).filter _).subset hs, hmatch⟩

end IgnoreRules

/-! ## Walks without gitignore files -/

namespace Walk

variable {rules rules' : IgnoreRules} {options options' : WalkOptions} {root : WalkRoot}
  {stack stack' : List Gitignore.DirRules} {names more : List FileName} {node : FileTree}
  {P : FileName → Prop} {w : WalkedFile}

/-- A walk that is at a node can list the directory to which `more` leads from there. -/
def Lists (root : WalkRoot) (names : List FileName) (node : FileTree) (more : List FileName) :
    Prop :=
  ∃ dir, node.at? more = some dir ∧ root.refusal? (names ++ more) dir.refusal? = none

/-- The rules leave out nothing on the way along `more`. -/
def Keeps (rules : IgnoreRules) (names more : List FileName) : Prop :=
  ∀ n < more.length, rules.shouldIgnore (FileName.key (names ++ more.take (n + 1))) = false

/-- A walk can list all directories on the way along `more`. -/
def ListsAll (root : WalkRoot) (names : List FileName) (node : FileTree) (more : List FileName) :
    Prop :=
  ∀ n < more.length, Lists root names node (more.take n)

theorem keeps_cons {name : FileName} :
    Keeps rules names (name :: more) ↔
      rules.shouldIgnore (FileName.key (names ++ [name])) = false ∧
        Keeps rules (names ++ [name]) more := by
  simp only [Keeps, List.length_cons, Nat.forall_lt_succ_left, List.take_succ_cons, List.take_zero,
    List.append_assoc, List.singleton_append]

theorem lists_nil : Lists root names node [] ↔ root.refusal? names node.refusal? = none := by
  simp [Lists, FileTree.at?]

theorem lists_cons {name : FileName} {refusal : Option FileError}
    {entries : List (FileName × FileTree)} {child : FileTree}
    (hchild : (FileTree.dir refusal entries).child? name = some child) :
    Lists root names (.dir refusal entries) (name :: more) ↔
      Lists root (names ++ [name]) child more := by
  simp [Lists, FileTree.at?, hchild]

theorem listsAll_cons {name : FileName} {refusal : Option FileError}
    {entries : List (FileName × FileTree)} {child : FileTree}
    (hchild : (FileTree.dir refusal entries).child? name = some child) :
    ListsAll root names (.dir refusal entries) (name :: more) ↔
      root.refusal? names refusal = none ∧ ListsAll root (names ++ [name]) child more := by
  simp only [ListsAll, List.length_cons, Nat.forall_lt_succ_left, List.take_zero,
    List.take_succ_cons, lists_cons hchild, lists_nil, FileTree.refusal?]

/-- None of the directories on the way brings in rules. -/
def Bare (stack : List Gitignore.DirRules) : Prop := ∀ d ∈ stack, d.shared = [] ∧ d.hidden = []

theorem bare_nil : Bare [] := List.forall_mem_nil _

theorem bare_dirRules (h : Bare stack) (dir : List FileName) :
    Bare (dirRules ⟨rules, false⟩ root dir :: stack) :=
  List.forall_mem_cons.2 ⟨⟨rfl, rfl⟩, h⟩

theorem isLeftOut_of_bare (h : Bare stack) (options : WalkOptions) (isDir : Bool) :
    isLeftOut options stack names isDir = options.rules.shouldIgnore (FileName.key names) := by
  have hshared : stack.findSome? (fun d =>
      Gitignore.verdict? d.shared (names.drop d.dir.length) isDir) = none :=
    List.findSome?_eq_none_iff.2 fun d hd => by rw [(h d hd).1]; rfl
  have hhidden : stack.findSome? (fun d =>
      Gitignore.verdict? d.hidden (names.drop d.dir.length) isDir) = none :=
    List.findSome?_eq_none_iff.2 fun d hd => by rw [(h d hd).2]; rfl
  simp [isLeftOut, Gitignore.ignores, hshared, hhidden]

/-- **Without gitignore files, the rules alone decide**, where the directories can be listed. -/
theorem reaches_file_iff (hnode : node.Named P) (hstack : Bare stack) :
    Reaches ⟨rules, false⟩ root stack names node (.file w) ↔
      ∃ more, w.names = names ++ more ∧ node.at? more = some (.file w.octets) ∧
        ListsAll root names node more ∧ Keeps rules names more := by
  constructor
  · intro h
    generalize hv : Visit.file w = v at h
    induction h with
    | file stack names octets =>
        cases hv
        exact ⟨[], (List.append_nil _).symm, rfl, nofun, nofun⟩
    | failure => cases hv
    | @entry stack names name child refusal entries v hrefusal he hkept _ ih =>
        cases hnode with
        | dir _ _ hdistinct _ hnamed =>
            have hbare := @bare_dirRules rules root stack hstack names
            have hchild := @FileTree.child?_of_mem _ _ refusal entries hdistinct he
            obtain ⟨more, hnames, hat, hlists, hkeeps⟩ := ih (hnamed _ he) hbare hv
            rw [isLeftOut_of_bare hbare] at hkept
            refine ⟨name :: more, by rw [hnames, List.append_assoc, List.singleton_append], ?_,
              (listsAll_cons hchild).2 ⟨hrefusal, hlists⟩, keeps_cons.2 ⟨hkept, hkeeps⟩⟩
            rw [FileTree.at?, hchild]
            exact hat
  · rintro ⟨more, hnames, hat, hlists, hkeeps⟩
    induction more generalizing stack names node with
    | nil =>
        cases hat
        obtain ⟨way, octets⟩ := w
        obtain rfl : way = names := hnames.trans (List.append_nil names)
        exact .file stack way octets
    | cons name more ih =>
        obtain ⟨child, hchild, hbelow⟩ := Option.bind_eq_some_iff.1 hat
        have he := FileTree.mem_entries_of_child? hchild
        have hbare := @bare_dirRules rules root stack hstack names
        cases node with
        | file | link => simp [FileTree.entries] at he
        | dir refusal entries =>
            obtain ⟨hrefusal, hlists⟩ := (listsAll_cons hchild).1 hlists
            obtain ⟨hkept, hkeeps⟩ := keeps_cons.1 hkeeps
            refine .entry hrefusal he ?_ (ih (hnode.of_mem_entries he).2 hbare ?_ hbelow hlists
              hkeeps)
            · rwa [isLeftOut_of_bare hbare]
            · rw [hnames, List.append_assoc, List.singleton_append]

/-- A walk that comes upon no error can list all directories on a way that the rules keep. -/
theorem listsAll_of_not_failure {target : FileTree} (hstack : Bare stack)
    (hok : ∀ names' detail,
      ¬ Reaches ⟨rules, false⟩ root stack names node (.failure names' detail))
    (hat : node.at? more = some target) (hkeeps : Keeps rules names more) :
    ListsAll root names node more := by
  induction more generalizing stack names node with
  | nil => exact nofun
  | cons name more ih =>
      obtain ⟨child, hchild, hbelow⟩ := Option.bind_eq_some_iff.1 hat
      have he := FileTree.mem_entries_of_child? hchild
      have hbare := @bare_dirRules rules root stack hstack names
      obtain ⟨hkept, hkeeps⟩ := keeps_cons.1 hkeeps
      cases node with
      | file | link => simp [FileTree.entries] at he
      | dir refusal entries =>
          have hrefusal : root.refusal? names refusal = none :=
            Option.eq_none_iff_forall_ne_some.2 fun e h => hok _ _ (.failure stack entries h)
          refine (listsAll_cons hchild).2 ⟨hrefusal, ih hbare ?_ hbelow hkeeps⟩
          intro names' detail hreaches
          refine hok names' detail (.entry hrefusal he ?_ hreaches)
          rwa [isLeftOut_of_bare hbare]

/-! ## Leaving out more -/

/-- **A walk that leaves out more comes upon less**, in the same order.  `R` tells which stacks of
rules may stand in for one another. -/
theorem nodeVisits_sublist {R : List Gitignore.DirRules → List Gitignore.DirRules → Prop}
    (hdir : ∀ {stack stack'} names, R stack stack' →
      R (dirRules options root names :: stack) (dirRules options' root names :: stack'))
    (hout : ∀ {stack stack'} names isDir, R stack stack' →
      isLeftOut options stack names isDir = true → isLeftOut options' stack' names isDir = true)
    (h : R stack stack') :
    (nodeVisits options' root stack' names node).Sublist
      (nodeVisits options root stack names node) := by
  induction node using FileTree.entries_induction generalizing stack stack' names with
  | file octets => simp [nodeVisits]
  | link target => simp [nodeVisits]
  | dir refusal entries ih =>
      cases hrefusal : root.refusal? names refusal with
      | some e =>
          simp only [nodeVisits_of_refusal hrefusal, List.Sublist.refl]
      | none =>
          rw [nodeVisits_dir hrefusal, nodeVisits_dir hrefusal]
          refine List.Sublist.flatMap_right entries fun e he => ?_
          have hinner := hdir names h
          rw [entryVisits, entryVisits]
          split
          · exact List.nil_sublist _
          · rename_i hkept'
            rw [if_neg fun hkept => hkept' (hout _ _ hinner hkept)]
            exact ih e he hinner

theorem nodeVisits_sublist_of_covers {gitignore : Bool} (hrules : rules'.Covers rules) :
    (nodeVisits ⟨rules', gitignore⟩ root stack names node).Sublist
      (nodeVisits ⟨rules, gitignore⟩ root stack names node) := by
  refine nodeVisits_sublist (R := Eq) ?_ ?_ rfl
  · rintro stack _ names rfl
    rfl
  · rintro stack _ names isDir rfl hout
    rcases Bool.or_eq_true_iff.1 hout with hgit | hrule
    · exact Bool.or_eq_true_iff.2 (Or.inl hgit)
    · exact Bool.or_eq_true_iff.2 (Or.inr (hrules.shouldIgnore hrule))

theorem nodeVisits_sublist_of_gitignore (hstack : Bare stack) :
    (nodeVisits ⟨rules, true⟩ root stack' names node).Sublist
      (nodeVisits ⟨rules, false⟩ root stack names node) := by
  refine nodeVisits_sublist (R := fun bare _ => Bare bare) ?_ ?_ hstack
  · exact fun names hbare => bare_dirRules hbare names
  · intro bare stack names isDir hbare hout
    rw [isLeftOut_of_bare hbare] at hout
    exact Bool.or_eq_true_iff.2 (Or.inr hout)

end Walk

/-! ## What is found -/

namespace FileSystem

variable {fs : FileSystem} {options options' : WalkOptions} {path : String} {place : Place}
  {rules rules' : IgnoreRules} {w : WalkedFile} {P : FileName → Prop}

/-- A walk from a place that was given by a path can list the directory at the end of names. -/
def Lists (fs : FileSystem) (path : String) (place : Place) (names : List FileName) : Prop :=
  ∃ dir, place.node.at? names = some dir ∧
    (fs.walkRoot path place).refusal? names dir.refusal? = none

theorem walkFrom_eq (h : fs.locate path = .ok place) (options : WalkOptions) :
    fs.walkFrom options path = fs.walkAt options path place := by
  rw [walkFrom, h]

/-- The files of a walk without gitignore files, in terms of the rules. -/
theorem mem_files_walkAt_iff (hplace : place.node.Named P) :
    w ∈ (fs.walkAt ⟨rules, false⟩ path place).files ↔
      place.node.at? w.names = some (.file w.octets) ∧
        (∀ n < w.names.length, fs.Lists path place (w.names.take n)) ∧
        Walk.Keeps rules [] w.names := by
  rw [mem_files_walkAt, Walk.reaches_file_iff hplace Walk.bare_nil]
  constructor
  · rintro ⟨more, hnames, h⟩
    rw [show w.names = more from hnames]
    exact h
  · exact fun h => ⟨w.names, rfl, h⟩

/-- A walk without errors can list all directories on a way that the rules keep. -/
theorem lists_of_skipped_eq_nil {names : List FileName} {target : FileTree}
    (h : (fs.walkAt ⟨rules, false⟩ path place).skipped = [])
    (hat : place.node.at? names = some target) (hkeeps : Walk.Keeps rules [] names) :
    ∀ n < names.length, fs.Lists path place (names.take n) :=
  Walk.listsAll_of_not_failure Walk.bare_nil (skipped_walkAt_eq_nil_iff.1 h) hat hkeeps

/-- Where globs are compared with components, the rules need only be asked about the files. -/
theorem keeps_iff_of_byComponents {names : List FileName} (hnames : ∀ name ∈ names, name.IsName)
    (hrules : rules.ByComponents) :
    Walk.Keeps rules [] names ↔ rules.shouldIgnore (FileName.key names) = false := by
  simp only [Walk.Keeps, List.nil_append, FileName.key, List.map_take]
  constructor
  · intro h
    cases hnil : names with
    | nil => exact IgnoreRules.shouldIgnore_empty rules
    | cons first rest =>
        have hlast := h rest.length (by simp [hnil])
        rwa [hnil, List.map_cons, List.take_of_length_le (by simp)] at hlast
  · intro h n _
    refine Bool.eq_false_iff.2 fun hn => Bool.eq_false_iff.1 h ?_
    exact IgnoreRules.shouldIgnore_of_take hrules (FileName.isName_texts hnames) hn

theorem files_walkAt_sublist
    (h : (Walk.nodeVisits options' (fs.walkRoot path place) [] [] place.node).Sublist
      (Walk.nodeVisits options (fs.walkRoot path place) [] [] place.node)) :
    (fs.walkAt options' path place).files.Sublist (fs.walkAt options path place).files :=
  sublist_mergeSort_key WalkedFile.key
    ((sublist_mergeSort_key (fun v : Visit => v.names.map FileName.octets) h).filterMap _)

end FileSystem

/-- What the walks from a root find, in terms of the rules. -/
structure FilterLaws (fs : FileSystem) (root : String) (place : Place) (rules : IgnoreRules) :
    Prop where
  /-- Without gitignore files, a walk finds the regular files to which it can list all directories
  on the way, and of which the rules leave out neither the file nor one of these directories, … -/
  mem_iff : ∀ w, w ∈ (fs.walkFrom ⟨rules, false⟩ root).files ↔
    place.node.at? w.names = some (.file w.octets) ∧
      (∀ n < w.names.length, fs.Lists root place (w.names.take n)) ∧
      ∀ n < w.names.length, rules.shouldIgnore (FileName.key (w.names.take (n + 1))) = false
  /-- … each of them once, … -/
  distinct : (fs.walkFrom ⟨rules, false⟩ root).files.Pairwise fun a b => a.names ≠ b.names
  /-- … in the order of their keys, … -/
  ordered : (fs.walkFrom ⟨rules, false⟩ root).files.Pairwise fun a b =>
    Text.encode a.key ≤ Text.encode b.key
  /-- … which is strict if all names are texts. -/
  increasing : fs.tree.TextNamed → (fs.walkFrom ⟨rules, false⟩ root).files.Pairwise fun a b =>
    Text.encode a.key < Text.encode b.key
  /-- If the walk meets no error, it finds all regular files that the rules leave in so. -/
  mem_iff_of_no_error : (fs.walkFrom ⟨rules, false⟩ root).skipped = [] →
    ∀ w, w ∈ (fs.walkFrom ⟨rules, false⟩ root).files ↔
      place.node.at? w.names = some (.file w.octets) ∧
        ∀ n < w.names.length, rules.shouldIgnore (FileName.key (w.names.take (n + 1))) = false
  /-- Where no glob is compared with whole paths, it is enough to ask about the files, … -/
  mem_iff_of_byComponents : rules.ByComponents →
    ∀ w, w ∈ (fs.walkFrom ⟨rules, false⟩ root).files ↔
      place.node.at? w.names = some (.file w.octets) ∧
        (∀ n < w.names.length, fs.Lists root place (w.names.take n)) ∧
        rules.shouldIgnore w.key = false
  /-- … also for a walk that meets no error; … -/
  mem_iff_of_byComponents_of_no_error : rules.ByComponents →
    (fs.walkFrom ⟨rules, false⟩ root).skipped = [] →
      ∀ w, w ∈ (fs.walkFrom ⟨rules, false⟩ root).files ↔
        place.node.at? w.names = some (.file w.octets) ∧ rules.shouldIgnore w.key = false
  /-- … and so it is if none of the globs holds a slash. -/
  byComponents_iff : ∀ glob rules', rules.addGlob glob = .ok rules' →
    (rules'.ByComponents ↔ rules.ByComponents ∧ Text.contains glob "/" = false)
  /-- With gitignore files, a walk finds a part of what it finds without them, in the same order. -/
  gitignore : (fs.walkFrom ⟨rules, true⟩ root).files.Sublist
    (fs.walkFrom ⟨rules, false⟩ root).files
  /-- So it does with one more rule of any kind. -/
  adds : ∀ rules' gitignore, rules.Adds rules' →
    (fs.walkFrom ⟨rules', gitignore⟩ root).files.Sublist
      (fs.walkFrom ⟨rules, gitignore⟩ root).files

/-- **The walk and the rules agree**, for all trees with names as directories have them, whether
they are texts or not and whether all directories can be listed or not. -/
theorem walkFrom_agrees {fs : FileSystem} (hfs : fs.tree.WellNamed) {root : String} {place : Place}
    (hroot : fs.locate root = .ok place) (rules : IgnoreRules) : FilterLaws fs root place rules := by
  have hplace := FileSystem.named_of_locate hfs hroot
  have hnames : ∀ {w : WalkedFile}, place.node.at? w.names = some (.file w.octets) →
      ∀ name ∈ w.names, name.IsName := fun hat => (hplace.of_at? hat).1
  have hmem := fun w => @FileSystem.mem_files_walkAt_iff fs root place rules w _ hplace
  have hlists := @FileSystem.lists_of_skipped_eq_nil fs root place rules
  refine
    { mem_iff := ?_, distinct := ?_, ordered := ?_, increasing := ?_, mem_iff_of_no_error := ?_,
      mem_iff_of_byComponents := ?_, mem_iff_of_byComponents_of_no_error := ?_,
      byComponents_iff := fun glob rules' h => IgnoreRules.byComponents_addGlob h,
      gitignore := ?_, adds := ?_ } <;>
    simp only [FileSystem.walkFrom_eq hroot]
  · exact hmem
  · exact FileSystem.walkAt_distinct hplace
  · exact FileSystem.walkAt_ordered.imp Text.encode_le_iff.2
  · intro htext
    refine (FileSystem.walkAt_increasing ?_).imp Text.encode_lt_iff.2
    exact FileSystem.named_of_locate htext hroot
  · intro hok w
    refine (hmem w).trans (and_congr_right fun hat => ?_)
    exact and_iff_right_of_imp fun hkeeps => hlists hok hat hkeeps
  · intro hrules w
    refine (hmem w).trans (and_congr_right fun hat => and_congr_right fun _ => ?_)
    exact FileSystem.keeps_iff_of_byComponents (hnames hat) hrules
  · intro hrules hok w
    refine (hmem w).trans (and_congr_right fun hat => ?_)
    refine (and_iff_right_of_imp fun hkeeps => hlists hok hat hkeeps).trans ?_
    exact FileSystem.keeps_iff_of_byComponents (hnames hat) hrules
  · exact FileSystem.files_walkAt_sublist (Walk.nodeVisits_sublist_of_gitignore Walk.bare_nil)
  · exact fun rules' gitignore h =>
      FileSystem.files_walkAt_sublist (Walk.nodeVisits_sublist_of_covers h.covers)

/-- A file next to a directory that holds another one two levels down. -/
def vendored : FileSystem where
  top := "/w"
  tree := .dir none
    [("main.py", .file ⟨#[]⟩),
      ("vendor", .dir none [("lib", .dir none [("a.py", .file ⟨#[]⟩)])])]
  workingDir := []

/-- The rule that leaves out what stands directly below `vendor`. -/
def vendorRules : IgnoreRules :=
  { IgnoreRules.empty with
    globs := [⟨⟨"vendor/".toList.map Glob.Token.char ++ [.anySequence]⟩, true⟩] }

/-- A glob with a slash: it does not fit the file two levels down, but the directory of that file,
and so the walk does not get there. -/
theorem walkFrom_agrees_vendored :
    vendored.tree.WellNamed ∧ vendored.locate "/w" = .ok ⟨[], vendored.tree⟩ ∧
      IgnoreRules.empty.addGlob "vendor/*" = .ok vendorRules ∧
      ⟨["main.py"], ⟨#[]⟩⟩ ∈ (vendored.walkFrom ⟨vendorRules, false⟩ "/w").files ∧
      vendorRules.shouldIgnore "vendor/lib/a.py" = false ∧
      ⟨["vendor", "lib", "a.py"], ⟨#[]⟩⟩ ∉ (vendored.walkFrom ⟨vendorRules, false⟩ "/w").files := by
  have hnamed : vendored.tree.WellNamed := by
    simp only [vendored, FileTree.WellNamed, FileTree.named_dir_iff, FileTree.named_file,
      List.forall_mem_cons, List.not_mem_nil, false_implies, implies_true, and_true]
    decide +kernel
  have hroot : vendored.locate "/w" = .ok ⟨[], vendored.tree⟩ := rfl
  have hfound := (walkFrom_agrees hnamed hroot vendorRules).mem_iff
  refine ⟨hnamed, hroot, by rfl, (hfound _).2 ⟨rfl, ?_, ?_⟩, by decide +kernel, ?_⟩
  · intro n hn
    obtain rfl : n = 0 := Nat.lt_one_iff.1 hn
    exact ⟨vendored.tree, rfl, by decide +kernel⟩
  · decide +kernel
  · exact fun hmem => absurd (((hfound _).1 hmem).2.2 1 (by decide)) (by decide +kernel)

/-- Two files whose names are no texts. -/
def shownAlike : FileSystem where
  top := "/w"
  tree := .dir none [(⟨[0xFE]⟩, .file ⟨#[]⟩), (⟨[0xFF]⟩, .file ⟨#[]⟩)]
  workingDir := []

/-- A file in a directory that cannot be listed. -/
def outOfSight : FileSystem where
  top := "/w"
  tree := .dir none [("a", .dir (some .permissionDenied) [("f.txt", .file ⟨#[]⟩)])]
  workingDir := []

/-- Files may share a key, and then the order is not strict; and what stands in a directory that
cannot be listed is not found, though no rule leaves it out. -/
theorem walkFrom_disagrees :
    (shownAlike.tree.WellNamed ∧
      ¬ (shownAlike.walkFrom ⟨.empty, false⟩ "/w").files.Pairwise fun a b =>
        Text.encode a.key < Text.encode b.key) ∧
      outOfSight.tree.WellNamed ∧ outOfSight.locate "/w" = .ok ⟨[], outOfSight.tree⟩ ∧
      outOfSight.tree.at? ["a", "f.txt"] = some (.file ⟨#[]⟩) ∧
      (∀ n < 2, IgnoreRules.empty.shouldIgnore
        (FileName.key ((["a", "f.txt"] : List FileName).take (n + 1))) = false) ∧
      ⟨["a", "f.txt"], ⟨#[]⟩⟩ ∉ (outOfSight.walkFrom ⟨.empty, false⟩ "/w").files := by
  have hnamed : shownAlike.tree.WellNamed := by
    simp only [shownAlike, FileTree.WellNamed, FileTree.named_dir_iff, FileTree.named_file,
      List.forall_mem_cons, List.not_mem_nil, false_implies, implies_true, and_true]
    decide
  have hnamed' : outOfSight.tree.WellNamed := by
    simp only [outOfSight, FileTree.WellNamed, FileTree.named_dir_iff, FileTree.named_file,
      List.forall_mem_cons, List.not_mem_nil, false_implies, implies_true, and_true]
    decide
  have hroot : shownAlike.locate "/w" = .ok ⟨[], shownAlike.tree⟩ := rfl
  have hroot' : outOfSight.locate "/w" = .ok ⟨[], outOfSight.tree⟩ := rfl
  have hplace : (Place.mk [] shownAlike.tree).node.WellNamed := hnamed
  have hplace' : (Place.mk [] outOfSight.tree).node.WellNamed := hnamed'
  rw [FileSystem.walkFrom_eq hroot, FileSystem.walkFrom_eq hroot']
  refine ⟨⟨hnamed, fun hstrict => ?_⟩, hnamed', hroot', rfl, by decide +kernel, fun hmem => ?_⟩
  · have hfound : ∀ name ∈ ([⟨[0xFE]⟩, ⟨[0xFF]⟩] : List FileName), ⟨[name], ⟨#[]⟩⟩ ∈
        (shownAlike.walkAt ⟨.empty, false⟩ "/w" ⟨[], shownAlike.tree⟩).files := by
      intro name hname
      refine (FileSystem.mem_files_walkAt_iff hplace).2 ⟨?_, ?_, fun n _ => ?_⟩
      · revert name
        simp only [List.forall_mem_cons, List.not_mem_nil, false_implies, implies_true, and_true]
        exact ⟨rfl, rfl⟩
      · intro n hn
        rw [Nat.lt_one_iff.1 hn, List.take_zero]
        exact ⟨shownAlike.tree, rfl, by decide +kernel⟩
      · exact IgnoreRules.shouldIgnore_of_empty _
    have heq := eq_of_key_eq (fun w : WalkedFile => Text.encode w.key) hstrict
      (hfound _ (.head _)) (hfound _ (.tail _ (.head _))) (by decide +kernel)
    exact absurd (congrArg WalkedFile.names heq) (by decide)
  · have hlists := ((FileSystem.mem_files_walkAt_iff hplace').1 hmem).2.1 1 (by decide)
    obtain ⟨dir, hat, hrefusal⟩ := hlists
    cases hat
    exact absurd hrefusal (by decide +kernel)

end SourceAtlas
