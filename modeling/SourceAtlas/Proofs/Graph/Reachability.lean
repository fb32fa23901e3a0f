import Mathlib.Order.Lattice.Nat
import SourceAtlas.Graph

/-!
# What can be reached in a graph of imports

The search from a file finds what chains of imports lead to, each file once and the nearest first.

* `Chain` — a chain of edges inside the project, with at least one edge; `distance` is the length of
  the shortest one, and a file lies `OnCycle` if a chain that closes passes through it;
* `Explores` — the search as it takes one file after the other from its queue, until none is left;
* `Search` — what holds between two rounds of the search: every file that was found has a depth,
  the depths do not decrease along the list, and the files that were expanded have all their imports
  in the list, at most one deeper;
* `reachableFrom_exact` — the search ends, and its answer is exact and in the order of the distances.

The file from which the search starts does not count as found, so its own imports are treated apart
from those of the files that were found (`Search.start`).
-/

namespace SourceAtlas

theorem nodup_eraseDups {α : Type} [BEq α] [LawfulBEq α] : ∀ l : List α, l.eraseDups.Nodup
  | [] => List.nodup_nil
  | a :: l => by
      have hlt : (l.filter fun b => !b == a).length < l.length + 1 :=
        Nat.lt_succ_of_le (List.length_filter_le _ _)
      rw [List.eraseDups_cons, List.nodup_cons]
      refine ⟨?_, nodup_eraseDups _⟩
      simp
  termination_by l => l.length

theorem Target.path?_eq_some_iff {t : Target} {q : String} :
    t.path? = some q ↔ t = .internal q := by
  cases t <;> simp [path?]

namespace Graph

variable {g : Graph} {p q r : String}

/-! ## Imports of a file -/

/-- A file imports another one of the project. -/
def Imports (g : Graph) (p q : String) : Prop :=
  ∃ e ∈ g.edges, e.source = p ∧ e.target = .internal q

theorem mem_dependenciesOf : q ∈ g.dependenciesOf p ↔ g.Imports p q := by
  simp [dependenciesOf, Imports, Target.path?_eq_some_iff, and_assoc]

theorem nodup_dependenciesOf (g : Graph) (p : String) : (g.dependenciesOf p).Nodup :=
  nodup_eraseDups _

/-- The imports of a file that have not been found yet. -/
def fresh (g : Graph) (found : List String) (current : String) : List String :=
  (g.dependenciesOf current).filter fun p => !found.contains p

theorem mem_fresh {found : List String} : q ∈ g.fresh found p ↔ g.Imports p q ∧ q ∉ found := by
  simp [fresh, mem_dependenciesOf]

/-- What is fresh can be added to what was found without repeating anything. -/
theorem nodup_append_fresh {found : List String} (h : found.Nodup) (p : String) :
    (found ++ g.fresh found p).Nodup := by
  refine h.append ((nodup_dependenciesOf g p).filter _) ?_
  intro q hq hfresh
  exact (mem_fresh.1 hfresh).2 hq

/-! ## Chains of imports -/

/-- A chain of edges inside the project: each edge begins where the one before it leads, and there
is at least one. -/
inductive Chain (g : Graph) : String → List Edge → String → Prop
  | last {e : Edge} {q : String} : e ∈ g.edges → e.target = .internal q → Chain g e.source [e] q
  | cons {e : Edge} {q r : String} {es : List Edge} :
      e ∈ g.edges → e.target = .internal q → Chain g q es r → Chain g e.source (e :: es) r

/-- The length of the shortest chain between two files. -/
noncomputable def distance (g : Graph) (p q : String) : Nat :=
  sInf {n | ∃ es, g.Chain p es q ∧ es.length = n}

/-- A file lies on a cycle if a chain that ends where it begins passes through it. -/
def OnCycle (g : Graph) (p : String) : Prop :=
  ∃ q es, g.Chain q es q ∧ p ∈ es.map (·.source)

theorem Imports.chain (h : g.Imports p q) : ∃ es, g.Chain p es q ∧ es.length = 1 := by
  obtain ⟨e, he, rfl, htarget⟩ := h
  exact ⟨[e], .last he htarget, rfl⟩

theorem Chain.append {es fs : List Edge} (h : g.Chain p es q) (h' : g.Chain q fs r) :
    g.Chain p (es ++ fs) r := by
  induction h with
  | last he htarget => exact .cons he htarget h'
  | cons he htarget _ ih => exact .cons he htarget (ih h')

theorem Chain.snoc {es : List Edge} (h : g.Chain p es q) (h' : g.Imports q r) :
    ∃ fs, g.Chain p fs r ∧ fs.length = es.length + 1 := by
  obtain ⟨fs, hfs, hlength⟩ := h'.chain
  exact ⟨es ++ fs, h.append hfs, by rw [List.length_append, hlength]⟩

theorem Chain.head_mem {es : List Edge} (h : g.Chain p es q) : p ∈ es.map (·.source) := by
  cases h <;> simp

/-- A chain can be cut at each of the files that it passes through. -/
theorem Chain.cut {es : List Edge} (h : g.Chain q es r) (hp : p ∈ es.map (·.source)) :
    (q = p ∨ ∃ before, g.Chain q before p) ∧ ∃ after, g.Chain p after r := by
  induction h with
  | last he htarget =>
      obtain rfl : p = _ := by simpa using hp
      exact ⟨Or.inl rfl, _, .last he htarget⟩
  | @cons e q r es he htarget htail ih =>
      rcases List.mem_cons.1 hp with rfl | hp
      · exact ⟨Or.inl rfl, _, .cons he htarget htail⟩
      · obtain ⟨rfl | ⟨before, hbefore⟩, hafter⟩ := ih hp
        · exact ⟨Or.inr ⟨_, .last he htarget⟩, hafter⟩
        · exact ⟨Or.inr ⟨_, .cons he htarget hbefore⟩, hafter⟩

/-- A file lies on a cycle exactly if a chain leads from it back to it. -/
theorem onCycle_iff : g.OnCycle p ↔ ∃ es, g.Chain p es p := by
  constructor
  · rintro ⟨q, es, hclosed, hp⟩
    obtain ⟨rfl | ⟨before, hbefore⟩, after, hafter⟩ := hclosed.cut hp
    · exact ⟨es, hclosed⟩
    · exact ⟨_, hafter.append hbefore⟩
  · rintro ⟨es, h⟩
    exact ⟨p, es, h, h.head_mem⟩

/-! ## The search ends -/

/-- The search from a queue, with some files found already: it takes the first file of the queue and
adds the fresh imports of that file, both to the queue and to what was found, and it is done when
the queue is empty. -/
inductive Explores (g : Graph) : List String → List String → List String → Prop
  | done (found : List String) : Explores g [] found found
  | expand {current : String} {queue found result : List String} :
      Explores g (queue ++ g.fresh found current) (found ++ g.fresh found current) result →
      Explores g (current :: queue) found result

theorem explore_cons (n : Nat) (current : String) (queue found : List String) :
    g.explore (n + 1) (current :: queue) found =
      g.explore n (queue ++ g.fresh found current) (found ++ g.fresh found current) := rfl

/-- Files that are all imported, each listed once, are no more than there are edges. -/
theorem length_le_edges {found : List String} (hnodup : found.Nodup)
    (htargets : ∀ q ∈ found, ∃ p, g.Imports p q) : found.length ≤ g.edges.length := by
  have hsubset : found ⊆ g.edges.filterMap (·.target.path?) := by
    intro q hq
    obtain ⟨p, e, he, -, htarget⟩ := htargets q hq
    exact List.mem_filterMap.2 ⟨e, he, Target.path?_eq_some_iff.2 htarget⟩
  exact (hnodup.subperm hsubset).length_le.trans (List.length_filterMap_le ..)

/-- **There are enough rounds.**  A round takes one file from the queue, and what it adds to the
queue it also adds to what was found; so the length of the queue and the number of edges that have
not led to a new file yet together bound the rounds that remain. -/
theorem explores_explore (n : Nat) :
    ∀ {queue found : List String}, found.Nodup → (∀ q ∈ found, ∃ p, g.Imports p q) →
      queue.length + g.edges.length ≤ n + found.length →
      g.Explores queue found (g.explore n queue found) := by
  induction n with
  | zero =>
      intro queue found hnodup htargets hn
      have hfound := length_le_edges hnodup htargets
      obtain rfl : queue = [] := List.eq_nil_of_length_eq_zero (by omega)
      exact .done found
  | succ n ih =>
      intro queue found hnodup htargets hn
      cases queue with
      | nil => exact .done found
      | cons current queue =>
          rw [explore_cons]
          refine .expand (ih (nodup_append_fresh hnodup current) ?_ ?_)
          · intro q hq
            rcases List.mem_append.1 hq with hq | hq
            · exact htargets q hq
            · exact ⟨current, (mem_fresh.1 hq).1⟩
          · simp only [List.length_append, List.length_cons] at hn ⊢
            omega

theorem explores_reachableFrom (g : Graph) (p : String) :
    g.Explores [p] [] (g.reachableFrom p) :=
  explores_explore _ List.nodup_nil (by simp) (by simp [Nat.add_comm])

/-! ## What holds during the search -/

/-- What holds between two rounds of the search from `p`: the files `done` have been expanded, those
in `queue` have not, and `depth` tells how long the chain is through which a file was found. -/
structure Search (g : Graph) (p : String) (depth : String → Nat) (done queue : List String) :
    Prop where
  /-- No file is found twice. -/
  nodup : (done ++ queue).Nodup
  /-- To every file that was found leads a chain as long as its depth. -/
  chain : ∀ q ∈ done ++ queue, ∃ es, g.Chain p es q ∧ es.length = depth q
  /-- The imports of `p` have been found. -/
  start : ∀ r, g.Imports p r → r ∈ done ++ queue ∧ depth r ≤ 1
  /-- So have those of the files that were expanded. -/
  closed : ∀ q ∈ done, ∀ r, g.Imports q r → r ∈ done ++ queue ∧ depth r ≤ depth q + 1
  /-- The depths do not decrease. -/
  sorted : (done ++ queue).Pairwise fun q r => depth q ≤ depth r
  /-- In the queue there are two depths at most. -/
  near : ∀ q ∈ queue.head?, ∀ r ∈ queue, depth r ≤ depth q + 1

/-- After the first round, all files that were found have depth one. -/
theorem search_first (g : Graph) (p : String) :
    g.Search p (fun _ => 1) [] (g.fresh [] p) where
  nodup := nodup_append_fresh List.nodup_nil p
  chain := fun q hq => (mem_fresh.1 hq).1.chain
  start := fun r hr => ⟨mem_fresh.2 ⟨hr, List.not_mem_nil⟩, Nat.le_refl 1⟩
  closed := by simp
  sorted := List.pairwise_of_forall_mem_list fun _ _ _ _ => Nat.le_refl 1
  near := by simp

namespace Search

variable {depth : String → Nat} {done queue : List String} {current : String}

/-- The depths after a round: what was fresh in it is one deeper than the file that was expanded. -/
def deepen (depth : String → Nat) (found : List String) (current q : String) : Nat :=
  if q ∈ found then depth q else depth current + 1

theorem deepen_of_mem {found : List String} (h : q ∈ found) :
    deepen depth found current q = depth q := if_pos h

theorem deepen_of_fresh {found : List String} (h : q ∈ g.fresh found current) :
    deepen depth found current q = depth current + 1 := if_neg (mem_fresh.1 h).2

/-- Everything that was found is at most one deeper than the file at the head of the queue. -/
theorem depth_le (h : g.Search p depth done (current :: queue)) :
    ∀ q ∈ done ++ current :: queue, depth q ≤ depth current + 1 := by
  intro q hq
  rcases List.mem_append.1 hq with hdone | hqueue
  · have hle := (List.pairwise_append.1 h.sorted).2.2 q hdone current List.mem_cons_self
    omega
  · exact h.near current rfl q hqueue

/-- The file at the head of the queue is no deeper than the others in the queue. -/
theorem le_depth (h : g.Search p depth done (current :: queue)) :
    ∀ q ∈ queue, depth current ≤ depth q :=
  (List.pairwise_cons.1 (List.pairwise_append.1 h.sorted).2.1).1

/-- **One round.**  The file at the head of the queue is expanded. -/
theorem step (h : g.Search p depth done (current :: queue)) :
    g.Search p (deepen depth (done ++ current :: queue) current) (done ++ [current])
      (queue ++ g.fresh (done ++ current :: queue) current) := by
  set found := done ++ current :: queue with hfound
  set depth' := deepen depth found current with hdepth'
  have hlist : done ++ [current] ++ (queue ++ g.fresh found current) =
      found ++ g.fresh found current := by simp [hfound]
  have hcurrent : current ∈ found := by simp [hfound]
  have hold : ∀ q ∈ found, depth' q = depth q := fun q hq => deepen_of_mem hq
  have hnew : ∀ q ∈ g.fresh found current, depth' q = depth current + 1 :=
    fun q hq => deepen_of_fresh hq
  have hqueue : ∀ q ∈ queue, q ∈ found := fun q hq => by simp [hfound, hq]
  constructor
  case nodup =>
    rw [hlist]
    exact nodup_append_fresh h.nodup current
  case chain =>
    rw [hlist]
    intro q hq
    rcases List.mem_append.1 hq with hq | hq
    · rw [hold q hq]
      exact h.chain q hq
    · obtain ⟨es, hes, hlength⟩ := h.chain current hcurrent
      obtain ⟨fs, hfs, hlength'⟩ := hes.snoc (mem_fresh.1 hq).1
      exact ⟨fs, hfs, by rw [hlength', hlength, hnew q hq]⟩
  case start =>
    rw [hlist]
    intro r hr
    obtain ⟨hmem, hle⟩ := h.start r hr
    exact ⟨List.mem_append_left _ hmem, by rw [hold r hmem]; exact hle⟩
  case closed =>
    rw [hlist]
    intro q hq r hr
    rcases List.mem_append.1 hq with hq | hq
    · obtain ⟨hmem, hle⟩ := h.closed q hq r hr
      refine ⟨List.mem_append_left _ hmem, ?_⟩
      rw [hold r hmem, hold q (List.mem_append_left _ hq)]
      exact hle
    · -- The file that was expanded in this round: its imports are fresh or were found before.
      obtain rfl : q = current := by simpa using hq
      rw [hold q hcurrent]
      by_cases hmem : r ∈ found
      · exact ⟨List.mem_append_left _ hmem, by rw [hold r hmem]; exact h.depth_le r hmem⟩
      · have hfresh : r ∈ g.fresh found q := mem_fresh.2 ⟨hr, hmem⟩
        exact ⟨List.mem_append_right _ hfresh, (hnew r hfresh).le⟩
  case sorted =>
    rw [hlist, List.pairwise_append]
    refine ⟨?_, ?_, ?_⟩
    · refine h.sorted.imp_of_mem ?_
      intro q r hq hr hle
      rw [hold q hq, hold r hr]
      exact hle
    · refine List.pairwise_of_forall_mem_list ?_
      intro q hq r hr
      rw [hnew q hq, hnew r hr]
    · intro q hq r hr
      rw [hold q hq, hnew r hr]
      exact h.depth_le q hq
  case near =>
    have hall : ∀ r ∈ queue ++ g.fresh found current,
        depth current ≤ depth' r ∧ depth' r ≤ depth current + 1 := by
      intro r hr
      rcases List.mem_append.1 hr with hr | hr
      · rw [hold r (hqueue r hr)]
        exact ⟨h.le_depth r hr, h.depth_le r (hqueue r hr)⟩
      · rw [hnew r hr]
        omega
    intro q hq r hr
    have hq' := hall q (List.mem_of_mem_head? hq)
    have hr' := hall r hr
    omega

/-- **The whole search.**  It ends with everything that was found expanded. -/
theorem of_explores {found result : List String} (hrun : g.Explores queue found result) :
    ∀ {depth : String → Nat} {done : List String}, found = done ++ queue →
      g.Search p depth done queue → ∃ depth', g.Search p depth' result [] := by
  induction hrun with
  | done found =>
      intro depth done hfound h
      obtain rfl : found = done := by simpa using hfound
      exact ⟨depth, h⟩
  | expand _ ih =>
      intro depth done hfound h
      subst hfound
      exact ih (by simp) h.step

/-- When everything is expanded, a chain that begins at a file of the list does not lead out of the
list, and its end is no deeper than its beginning and its length allow. -/
theorem depth_le_add_length (h : g.Search p depth done []) {es : List Edge}
    (hchain : g.Chain q es r) : q ∈ done → r ∈ done ∧ depth r ≤ depth q + es.length := by
  induction hchain with
  | last he htarget =>
      intro hq
      simpa using h.closed _ hq _ ⟨_, he, rfl, htarget⟩
  | cons he htarget _ ih =>
      intro hq
      obtain ⟨hmem, hle⟩ := h.closed _ hq _ ⟨_, he, rfl, htarget⟩
      obtain ⟨hmem', hle'⟩ := ih (by simpa using hmem)
      refine ⟨hmem', ?_⟩
      rw [List.length_cons]
      omega

/-- The same for a chain that begins where the search started. -/
theorem depth_le_length (h : g.Search p depth done []) {es : List Edge} (hchain : g.Chain p es q) :
    q ∈ done ∧ depth q ≤ es.length := by
  cases hchain with
  | last he htarget => simpa using h.start _ ⟨_, he, rfl, htarget⟩
  | cons he htarget htail =>
      obtain ⟨hmem, hle⟩ := h.start _ ⟨_, he, rfl, htarget⟩
      obtain ⟨hmem', hle'⟩ := h.depth_le_add_length htail (by simpa using hmem)
      refine ⟨hmem', ?_⟩
      rw [List.length_cons]
      omega

/-- When everything is expanded, depths are distances. -/
theorem distance_eq (h : g.Search p depth done []) (hq : q ∈ done) : g.distance p q = depth q := by
  obtain ⟨es, hes, hlength⟩ := h.chain q (List.mem_append_left _ hq)
  have hsome : {n | ∃ es, g.Chain p es q ∧ es.length = n}.Nonempty := ⟨es.length, es, hes, rfl⟩
  obtain ⟨fs, hfs, hshortest⟩ := Nat.sInf_mem hsome
  refine Nat.le_antisymm (Nat.sInf_le ⟨es, hes, hlength⟩) ?_
  rw [distance, ← hshortest]
  exact (h.depth_le_length hfs).2

end Search

/-- The search from a file, at its end. -/
theorem search_reachableFrom (g : Graph) (p : String) :
    ∃ depth, g.Search p depth (g.reachableFrom p) [] := by
  cases g.explores_reachableFrom p with
  | expand hrest => exact Search.of_explores hrest rfl (search_first g p)

end Graph

/-- **The search from a file is exact.**  It comes to an end; its answer lists, without repetition,
the files to which chains of imports lead; the file itself is among them exactly if it lies on a
cycle; and the shortest chains to the files of the list do not get shorter along it. -/
theorem reachableFrom_exact (g : Graph) (p : String) :
    g.Explores [p] [] (g.reachableFrom p) ∧
      (g.reachableFrom p).Nodup ∧
      (∀ q, q ∈ g.reachableFrom p ↔ ∃ es, g.Chain p es q) ∧
      (p ∈ g.reachableFrom p ↔ g.OnCycle p) ∧
      (g.reachableFrom p).Pairwise fun q r => g.distance p q ≤ g.distance p r := by
  obtain ⟨depth, h⟩ := g.search_reachableFrom p
  have hmem : ∀ q, q ∈ g.reachableFrom p ↔ ∃ es, g.Chain p es q := by
    intro q
    constructor
    · intro hq
      obtain ⟨es, hes, -⟩ := h.chain q (List.mem_append_left _ hq)
      exact ⟨es, hes⟩
    · rintro ⟨es, hes⟩
      exact (h.depth_le_length hes).1
  have hnodup := h.nodup
  have hsorted := h.sorted
  rw [List.append_nil] at hnodup hsorted
  refine ⟨g.explores_reachableFrom p, hnodup, hmem, ?_, ?_⟩
  · rw [hmem p, Graph.onCycle_iff]
  · refine hsorted.imp_of_mem ?_
    intro q r hq hr hle
    rw [h.distance_eq hq, h.distance_eq hr]
    exact hle

/-- Two files that import each other, one of them twice; the target of the last edge is no node. -/
example :
    Graph.reachableFrom
      ⟨["a.py", "b.py"],
        [⟨"a.py", .internal "b.py", "b"⟩, ⟨"a.py", .internal "b.py", "b"⟩,
         ⟨"b.py", .internal "a.py", "a"⟩, ⟨"b.py", .external, "os"⟩,
         ⟨"a.py", .internal "lib/c.py", "c"⟩]⟩ "a.py" = ["b.py", "lib/c.py", "a.py"] := by
  decide +kernel

end SourceAtlas
