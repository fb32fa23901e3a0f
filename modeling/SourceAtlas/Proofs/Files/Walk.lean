import SourceAtlas.Files.Walk
import SourceAtlas.Proofs.Files.Name
import SourceAtlas.Proofs.Sorting

/-!
# What a walk finds

A walk comes upon what can be reached through entries that are not left out and directories that can
be listed (`mem_nodeVisits_iff`), upon each file once (`nodeVisits_distinct`), and the names on the
way to a file lead to it in the tree (`Reaches.at?_names`).  Its files are in the order of their
keys (`walkAt_ordered`).

Two files may have one key, unless all names are texts.  Then the order is strict
(`walkAt_increasing`), and the key of a file leads to it (`at?_steps_of_mem_walkAt`).

* `FileTree.WellNamed` — a tree as directories have it: names that are not empty and hold no slash,
  and no name twice in one directory;
* `FileTree.TextNamed` — such a tree in which all names are texts.
-/

namespace SourceAtlas

/-! ## Trees as directories have them -/

namespace FileTree

/-- A tree in which the entries of a directory have names of a kind, and no two of them the same. -/
inductive Named (P : FileName → Prop) : FileTree → Prop
  | file (octets : ByteArray) : Named P (file octets)
  | link (target : String) : Named P (link target)
  | dir (refusal : Option FileError) (entries : List (FileName × FileTree)) :
      entries.Pairwise (fun e e' => e.1 ≠ e'.1) → (∀ e ∈ entries, P e.1) →
      (∀ e ∈ entries, Named P e.2) → Named P (dir refusal entries)

/-- A tree with names as directories have them. -/
def WellNamed (t : FileTree) : Prop := t.Named FileName.IsName

/-- A tree with names that are texts. -/
def TextNamed (t : FileTree) : Prop := t.Named fun name => name.IsName ∧ name.IsText

theorem entries_induction {motive : FileTree → Prop} (file : ∀ octets, motive (file octets))
    (link : ∀ target, motive (link target))
    (dir : ∀ refusal entries, (∀ e ∈ entries, motive e.2) → motive (dir refusal entries))
    (t : FileTree) : motive t := by
  refine @FileTree.rec motive (fun entries => ∀ e ∈ entries, motive e.2) (fun e => motive e.2)
    file dir link ?_ ?_ ?_ t
  · simp
  · simp +contextual
  · exact fun _ _ h => h

variable {P : FileName → Prop} {t node : FileTree} {name : FileName} {names : List FileName}

@[simp] theorem named_file (octets : ByteArray) : (file octets).Named P := .file octets

theorem named_dir_iff {refusal : Option FileError} {entries : List (FileName × FileTree)} :
    (dir refusal entries).Named P ↔
      entries.Pairwise (fun e e' => e.1 ≠ e'.1) ∧ (∀ e ∈ entries, P e.1) ∧
        ∀ e ∈ entries, e.2.Named P := by
  constructor
  · rintro (_ | _ | ⟨_, _, hdistinct, hnames, hnamed⟩)
    exact ⟨hdistinct, hnames, hnamed⟩
  · rintro ⟨hdistinct, hnames, hnamed⟩
    exact .dir refusal entries hdistinct hnames hnamed

theorem mem_entries_of_child? (h : t.child? name = some node) : (name, node) ∈ t.entries := by
  obtain ⟨⟨name', node'⟩, hfind, rfl⟩ := Option.map_eq_some_iff.1 h
  obtain rfl : name' = name := by simpa using List.find?_some hfind
  exact List.mem_of_find?_eq_some hfind

/-- Where no name stands twice, the entry with a name is the one that is looked up. -/
theorem child?_of_mem {refusal : Option FileError} {entries : List (FileName × FileTree)}
    (hdistinct : entries.Pairwise (fun e e' => e.1 ≠ e'.1)) (h : (name, node) ∈ entries) :
    (dir refusal entries).child? name = some node := by
  induction entries with
  | nil => simp at h
  | cons e rest ih =>
      obtain ⟨hhead, hrest⟩ := List.pairwise_cons.1 hdistinct
      rcases List.mem_cons.1 h with rfl | hmem
      · simp [child?, FileTree.entries]
      · have hne : e.1 ≠ name := hhead _ hmem
        simpa [child?, FileTree.entries, hne] using ih hrest hmem

theorem Named.of_mem_entries {e : FileName × FileTree} (h : t.Named P) (he : e ∈ t.entries) :
    P e.1 ∧ e.2.Named P := by
  cases h with
  | file | link => simp [entries] at he
  | dir _ _ _ hnames hnamed => exact ⟨hnames e he, hnamed e he⟩

/-- The names on the way to a node are of the kind that the tree has, and so is the node. -/
theorem Named.of_at? (h : t.Named P) (hat : t.at? names = some node) :
    (∀ name ∈ names, P name) ∧ node.Named P := by
  induction names generalizing t with
  | nil =>
      cases hat
      exact ⟨fun _ hname => absurd hname List.not_mem_nil, h⟩
  | cons name names ih =>
      obtain ⟨child, hchild, hat⟩ := Option.bind_eq_some_iff.1 hat
      obtain ⟨hname, hnamed⟩ := h.of_mem_entries (mem_entries_of_child? hchild)
      obtain ⟨hnames, hnode⟩ := ih hnamed hat
      exact ⟨List.forall_mem_cons.2 ⟨hname, hnames⟩, hnode⟩

end FileTree

/-- A path that leads somewhere leads to what stands there in the tree. -/
theorem FileSystem.at?_of_follow {fs : FileSystem} {fuel links : Nat} {here segs : List FileName}
    {place : Place} (h : fs.follow fuel links here segs = .ok place) :
    fs.tree.at? place.names = some place.node := by
  fun_induction FileSystem.follow fs fuel links here segs
  case case3 hat =>
    cases h
    exact hat
  case case5 ih | case6 ih | case10 ih | case11 ih => exact ih h
  all_goals cases h

theorem FileSystem.at?_of_locate {fs : FileSystem} {path : String} {place : Place}
    (h : fs.locate path = .ok place) : fs.tree.at? place.names = some place.node := by
  rw [locate] at h
  split at h
  · cases h
  · split at h
    · cases h
    · split at h
      · cases h
      · exact at?_of_follow h

/-! ## What can be reached -/

namespace Walk

/-- What a walk comes upon from a node at the end of names: the node itself if it is a file or
cannot be listed, or what it comes upon from an entry of the node that is not left out. -/
inductive Reaches (options : WalkOptions) (root : WalkRoot) :
    List Gitignore.DirRules → List FileName → FileTree → Visit → Prop
  | file (stack : List Gitignore.DirRules) (names : List FileName) (octets : ByteArray) :
      Reaches options root stack names (.file octets) (.file ⟨names, octets⟩)
  | failure {names : List FileName} {refusal : Option FileError} {e : FileError}
      (stack : List Gitignore.DirRules) (entries : List (FileName × FileTree)) :
      root.refusal? names refusal = some e →
      Reaches options root stack names (.dir refusal entries)
        (.failure names (e.walkMessage (root.shown names)))
  | entry {stack : List Gitignore.DirRules} {names : List FileName} {name : FileName}
      {node : FileTree} {refusal : Option FileError} {entries : List (FileName × FileTree)}
      {v : Visit} :
      root.refusal? names refusal = none → (name, node) ∈ entries →
      isLeftOut options (dirRules options root names :: stack) (names ++ [name])
        node.isDir = false →
      Reaches options root (dirRules options root names :: stack) (names ++ [name]) node v →
      Reaches options root stack names (.dir refusal entries) v

variable {options : WalkOptions} {root : WalkRoot} {stack : List Gitignore.DirRules}
  {names : List FileName} {node : FileTree} {refusal : Option FileError}
  {entries : List (FileName × FileTree)} {v : Visit} {P : FileName → Prop}

/-- What one entry of a directory contributes. -/
def entryVisits (options : WalkOptions) (root : WalkRoot) (stack : List Gitignore.DirRules)
    (dir : List FileName) (e : FileName × FileTree) : List Visit :=
  if isLeftOut options stack (dir ++ [e.1]) e.2.isDir then []
  else nodeVisits options root stack (dir ++ [e.1]) e.2

theorem entriesVisits_eq_flatMap (dir : List FileName) :
    entriesVisits options root stack dir entries =
      entries.flatMap (entryVisits options root stack dir) := by
  induction entries with
  | nil => rw [entriesVisits, List.flatMap_nil]
  | cons e rest ih => rw [entriesVisits, ih, List.flatMap_cons, entryVisits]

theorem nodeVisits_of_refusal {e : FileError} (h : root.refusal? names refusal = some e) :
    nodeVisits options root stack names (.dir refusal entries) =
      [.failure names (e.walkMessage (root.shown names))] := by
  simp only [nodeVisits, h]

theorem nodeVisits_dir (h : root.refusal? names refusal = none) :
    nodeVisits options root stack names (.dir refusal entries) =
      entries.flatMap (entryVisits options root (dirRules options root names :: stack) names) := by
  simp only [nodeVisits, h, entriesVisits_eq_flatMap]

theorem mem_entryVisits {dir : List FileName} {e : FileName × FileTree} :
    v ∈ entryVisits options root stack dir e ↔
      isLeftOut options stack (dir ++ [e.1]) e.2.isDir = false ∧
        v ∈ nodeVisits options root stack (dir ++ [e.1]) e.2 := by
  rw [entryVisits]
  split <;> simp_all

/-- **A walk comes upon what can be reached**, and upon nothing else. -/
theorem mem_nodeVisits_iff :
    v ∈ nodeVisits options root stack names node ↔ Reaches options root stack names node v := by
  constructor
  · intro h
    induction node using FileTree.entries_induction generalizing stack names with
    | file octets =>
        obtain rfl : v = .file ⟨names, octets⟩ := by simpa [nodeVisits] using h
        exact .file stack names octets
    | link target => simp [nodeVisits] at h
    | dir refusal entries ih =>
        cases hrefusal : root.refusal? names refusal with
        | some e =>
            rw [nodeVisits_of_refusal hrefusal, List.mem_singleton] at h
            subst h
            exact .failure stack entries hrefusal
        | none =>
            rw [nodeVisits_dir hrefusal] at h
            obtain ⟨⟨name, child⟩, he, hv⟩ := List.mem_flatMap.1 h
            obtain ⟨hkept, hv⟩ := mem_entryVisits.1 hv
            exact .entry hrefusal he hkept (ih _ he hv)
  · intro h
    induction h with
    | file => simp [nodeVisits]
    | failure stack entries hrefusal =>
        rw [nodeVisits_of_refusal hrefusal]
        exact List.mem_singleton_self _
    | entry hrefusal he hkept _ ih =>
        rw [nodeVisits_dir hrefusal]
        exact List.mem_flatMap.2 ⟨_, he, mem_entryVisits.2 ⟨hkept, ih⟩⟩

/-- The names of a visit begin with those of the node, and what follows leads from there to the file
that is visited. -/
theorem Reaches.at?_names (h : Reaches options root stack names node v) (hnode : node.Named P) :
    ∃ more, v.names = names ++ more ∧
      ∀ w, v = .file w → node.at? more = some (.file w.octets) := by
  induction h with
  | file =>
      refine ⟨[], (List.append_nil _).symm, ?_⟩
      rintro _ ⟨⟩
      rfl
  | failure => exact ⟨[], (List.append_nil _).symm, nofun⟩
  | @entry stack names name child refusal entries v _ he _ _ ih =>
      cases hnode with
      | dir _ _ hdistinct _ hnamed =>
          obtain ⟨more, hnames, hat⟩ := ih (hnamed _ he)
          refine ⟨name :: more, by rw [hnames, List.append_assoc, List.singleton_append], ?_⟩
          intro w hw
          rw [FileTree.at?, FileTree.child?_of_mem hdistinct he]
          exact hat w hw

/-- No two visits have the same names. -/
theorem nodeVisits_distinct (hnode : node.Named P) :
    (nodeVisits options root stack names node).Pairwise fun a b => a.names ≠ b.names := by
  induction hnode generalizing stack names with
  | file => simp [nodeVisits]
  | link => simp [nodeVisits]
  | dir refusal entries hdistinct _ hnamed ih =>
      cases hrefusal : root.refusal? names refusal with
      | some e =>
          rw [nodeVisits_of_refusal hrefusal]
          exact List.pairwise_singleton _ _
      | none =>
          rw [nodeVisits_dir hrefusal, List.pairwise_flatMap]
          constructor
          · intro e he
            rw [entryVisits]
            split
            · exact List.Pairwise.nil
            · exact ih e he
          · -- Below two entries, the ways part at the names of the entries.
            refine hdistinct.imp_of_mem fun {e e'} he he' hne a ha b hb heq => hne ?_
            obtain ⟨more, hmore, -⟩ :=
              (mem_nodeVisits_iff.1 (mem_entryVisits.1 ha).2).at?_names (hnamed e he)
            obtain ⟨more', hmore', -⟩ :=
              (mem_nodeVisits_iff.1 (mem_entryVisits.1 hb).2).at?_names (hnamed e' he')
            rw [← heq, hmore] at hmore'
            simp only [List.append_assoc, List.append_cancel_left_eq, List.cons_append,
              List.nil_append, List.cons.injEq] at hmore'
            exact hmore'.1

end Walk

/-! ## The files and their order -/

theorem Visit.file?_eq_some_iff {v : Visit} {w : WalkedFile} : v.file? = some w ↔ v = .file w := by
  cases v <;> simp [Visit.file?]

theorem Visit.skip?_eq_some_iff {v : Visit} {s : SkippedFile} :
    v.skip? = some s ↔ ∃ names detail, v = .failure names detail ∧
      s = ⟨FileName.key names, .unreadable detail⟩ := by
  cases v with
  | file w => simp [Visit.skip?]
  | failure names detail =>
      constructor
      · rintro ⟨⟩
        exact ⟨names, detail, rfl, rfl⟩
      · rintro ⟨_, _, ⟨⟩, rfl⟩
        rfl

namespace FileSystem

variable {fs : FileSystem} {options : WalkOptions} {path : String} {place : Place}
  {P : FileName → Prop} {w : WalkedFile}

theorem named_of_locate (hfs : fs.tree.Named P) (h : fs.locate path = .ok place) :
    place.node.Named P :=
  (hfs.of_at? (at?_of_locate h)).2

theorem mem_files_walkAt :
    w ∈ (fs.walkAt options path place).files ↔
      Walk.Reaches options (fs.walkRoot path place) [] [] place.node (.file w) := by
  simp [walkAt, Walked.ofVisits, Walk.visits, Visit.file?_eq_some_iff, Walk.mem_nodeVisits_iff]

theorem mem_skipped_walkAt {s : SkippedFile} :
    s ∈ (fs.walkAt options path place).skipped ↔ ∃ names detail,
      Walk.Reaches options (fs.walkRoot path place) [] [] place.node (.failure names detail) ∧
        s = ⟨FileName.key names, .unreadable detail⟩ := by
  simp only [walkAt, Walked.ofVisits, Walk.visits, List.mem_mergeSort, List.mem_filterMap,
    Walk.mem_nodeVisits_iff, Visit.skip?_eq_some_iff]
  constructor
  · rintro ⟨_, hreaches, names, detail, rfl, hs⟩
    exact ⟨names, detail, hreaches, hs⟩
  · rintro ⟨names, detail, hreaches, hs⟩
    exact ⟨_, hreaches, names, detail, rfl, hs⟩

/-- A walk meets no error if it can list all directories that it can reach. -/
theorem skipped_walkAt_eq_nil_iff :
    (fs.walkAt options path place).skipped = [] ↔ ∀ names detail,
      ¬ Walk.Reaches options (fs.walkRoot path place) [] [] place.node (.failure names detail) := by
  rw [List.eq_nil_iff_forall_not_mem]
  constructor
  · exact fun h names detail hreaches => h _ (mem_skipped_walkAt.2 ⟨names, detail, hreaches, rfl⟩)
  · intro h s hs
    obtain ⟨names, detail, hreaches, -⟩ := mem_skipped_walkAt.1 hs
    exact h names detail hreaches

/-- The files of a walk are in the order of their keys. -/
theorem walkAt_ordered :
    (fs.walkAt options path place).files.Pairwise fun a b => a.key ≤ b.key :=
  mergeSort_key_le WalkedFile.key _

/-- No file is found twice. -/
theorem walkAt_distinct (hplace : place.node.Named P) :
    (fs.walkAt options path place).files.Pairwise fun a b => a.names ≠ b.names := by
  have hvisits : (Walk.visits options (fs.walkRoot path place) place.node).Pairwise
      fun a b => a.names ≠ b.names :=
    ((List.mergeSort_perm _ _).pairwise_iff fun hne => hne.symm).2 (Walk.nodeVisits_distinct hplace)
  refine ((List.mergeSort_perm _ _).pairwise_iff fun hne => hne.symm).2 ?_
  refine hvisits.filterMap Visit.file? ?_
  intro a b hne w hw w' hw'
  rw [Visit.file?_eq_some_iff] at hw hw'
  rw [hw, hw'] at hne
  exact hne

/-- The names on the way to a file lead to it. -/
theorem at?_of_mem_walkAt (hplace : place.node.Named P)
    (h : w ∈ (fs.walkAt options path place).files) :
    place.node.at? w.names = some (.file w.octets) := by
  obtain ⟨more, hnames, hat⟩ := (mem_files_walkAt.1 h).at?_names hplace
  rw [show w.names = more from hnames]
  exact hat w rfl

theorem names_of_mem_walkAt (hplace : place.node.Named P)
    (h : w ∈ (fs.walkAt options path place).files) : ∀ name ∈ w.names, P name :=
  (hplace.of_at? (at?_of_mem_walkAt hplace h)).1

/-- **Where all names are texts, the keys of the files increase.** -/
theorem walkAt_increasing (hplace : place.node.TextNamed) :
    (fs.walkAt options path place).files.Pairwise fun a b => a.key < b.key := by
  refine (walkAt_ordered.and (walkAt_distinct hplace)).imp_of_mem ?_
  rintro a b ha hb ⟨hle, hne⟩
  refine Std.lt_of_le_of_ne hle fun hkey => hne ?_
  exact FileName.key_inj (names_of_mem_walkAt hplace ha) (names_of_mem_walkAt hplace hb) hkey

end FileSystem

end SourceAtlas
