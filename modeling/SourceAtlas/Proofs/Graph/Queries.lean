import SourceAtlas.Proofs.Extract.Contributions
import SourceAtlas.Proofs.Graph.Reachability

/-!
# The neighbours of a file

What a file imports and what imports it are two readings of the same edges, from their two ends.

* `firstEdge` — the place of the first edge between two files; the neighbours of a file are listed
  in the order of these places (`dependenciesOf_increasing`, `dependentsOf_increasing`).
* `mem_internalEdges`, `mem_externalEdges` — an edge stays in the project or leaves it.
* `queries_dual` — the two readings agree, the edges are divided into two lists without loss, and
  the order of the edges bears only on the order of the answers.
-/

namespace SourceAtlas

theorem Target.isExternal_iff {t : Target} : t.isExternal = true ↔ t = .external := by
  cases t <;> simp [isExternal]

namespace Graph

variable {g g' : Graph} {p q : String} {e : Edge}

/-! ## The two ends of an edge -/

theorem mem_dependentsOf : p ∈ g.dependentsOf q ↔ g.Imports p q := by
  simp only [dependentsOf, Imports, List.mem_eraseDups, List.mem_map, List.mem_filter,
    decide_eq_true_eq, Target.path?_eq_some_iff]
  constructor
  · rintro ⟨e, ⟨he, htarget⟩, hsource⟩
    exact ⟨e, he, hsource, htarget⟩
  · rintro ⟨e, he, hsource, htarget⟩
    exact ⟨e, ⟨he, htarget⟩, hsource⟩

theorem nodup_dependentsOf (g : Graph) (q : String) : (g.dependentsOf q).Nodup := nodup_eraseDups _

/-! ## The order of the answers -/

/-- The place of the first edge from one file to another. -/
def firstEdge (g : Graph) (p q : String) : Nat :=
  g.edges.findIdx fun e => e.source = p && e.target = .internal q

/-- What comes first in the names that are read off a list is read off an earlier member. -/
theorem findIdx_lt_of_idxOf_lt {α : Type} {f : α → Option String} {l : List α} {a b : String}
    (h : (l.filterMap f).idxOf a < (l.filterMap f).idxOf b) :
    l.findIdx (f · = some a) < l.findIdx (f · = some b) := by
  induction l with
  | nil => simp at h
  | cons x l ih =>
      cases hx : f x with
      | none =>
          rw [List.filterMap_cons_none hx] at h
          simpa [List.findIdx_cons, hx] using ih h
      | some c =>
          rw [List.filterMap_cons_some hx] at h
          by_cases ha : c = a
          · have hb : c ≠ b := by
              rintro rfl
              simp at h
            simp [List.findIdx_cons, hx, ha, ha ▸ hb]
          · have hb : c ≠ b := by
              rintro rfl
              simp at h
            have hrest : (l.filterMap f).idxOf a < (l.filterMap f).idxOf b := by
              rw [List.idxOf_cons_ne _ ha, List.idxOf_cons_ne _ hb] at h
              exact Nat.lt_of_succ_lt_succ h
            simpa [List.findIdx_cons, hx, ha, hb] using ih hrest

/-- Names that are read off a list, each once, stand in the order of the first members that give
them. -/
theorem increasing_findIdx {α : Type} (f : α → Option String) (l : List α) :
    (l.filterMap f).eraseDups.Pairwise fun a b =>
      l.findIdx (f · = some a) < l.findIdx (f · = some b) :=
  (firstOccurrences_eraseDups _).increasing.imp findIdx_lt_of_idxOf_lt

theorem dependenciesOf_eq (g : Graph) (p : String) : g.dependenciesOf p =
    (g.edges.filterMap fun e => if e.source = p then e.target.path? else none).eraseDups := by
  unfold dependenciesOf
  rw [List.filterMap_filter]
  simp

theorem dependentsOf_eq (g : Graph) (q : String) : g.dependentsOf q =
    (g.edges.filterMap fun e =>
      if e.target.path? = some q then some e.source else none).eraseDups := by
  unfold dependentsOf
  rw [← List.filterMap_eq_map, List.filterMap_filter]
  simp

theorem dependenciesOf_increasing (g : Graph) (p : String) :
    (g.dependenciesOf p).Pairwise fun q r => g.firstEdge p q < g.firstEdge p r := by
  have hfirst : ∀ q, g.firstEdge p q = g.edges.findIdx
      fun e => (if e.source = p then e.target.path? else none) = some q := by
    intro q
    unfold firstEdge
    congr 1
    funext e
    by_cases he : e.source = p <;> simp [he, Target.path?_eq_some_iff]
  simp only [hfirst, dependenciesOf_eq]
  exact increasing_findIdx _ _

theorem dependentsOf_increasing (g : Graph) (q : String) :
    (g.dependentsOf q).Pairwise fun p r => g.firstEdge p q < g.firstEdge r q := by
  have hfirst : ∀ p, g.firstEdge p q = g.edges.findIdx
      fun e => (if e.target.path? = some q then some e.source else none) = some p := by
    intro p
    unfold firstEdge
    congr 1
    funext e
    by_cases he : e.target = .internal q <;> simp [he, Target.path?_eq_some_iff]
  simp only [hfirst, dependentsOf_eq]
  exact increasing_findIdx _ _

/-! ## Edges inside the project and out of it -/

theorem mem_internalEdges :
    e ∈ g.internalEdges ↔ e ∈ g.edges ∧ ∃ q, e.target = .internal q := by
  have htarget : (!e.target.isExternal) = true ↔ ∃ q, e.target = .internal q := by
    cases e.target <;> simp [Target.isExternal]
  rw [internalEdges, List.mem_filter, htarget]

theorem mem_externalEdges : e ∈ g.externalEdges ↔ e ∈ g.edges ∧ e.target = .external := by
  rw [externalEdges, List.mem_filter, Target.isExternal_iff]

theorem disjoint_edges (g : Graph) : g.internalEdges.Disjoint g.externalEdges := by
  intro e hinternal hexternal
  obtain ⟨q, hq⟩ := (mem_internalEdges.1 hinternal).2
  rw [(mem_externalEdges.1 hexternal).2] at hq
  cases hq

theorem perm_edges (g : Graph) : (g.internalEdges ++ g.externalEdges).Perm g.edges := by
  simpa [internalEdges, externalEdges] using
    List.filter_append_perm (fun e : Edge => !e.target.isExternal) g.edges

theorem hasExternal_iff : g.hasExternal p = true ↔ ∃ e ∈ g.externalEdges, e.source = p := by
  simp [hasExternal]

/-! ## The order of the edges -/

theorem Imports.of_perm (h : g'.edges.Perm g.edges) : g'.Imports p q ↔ g.Imports p q := by
  simp only [Imports, h.mem_iff]

theorem dependenciesOf_perm (h : g'.edges.Perm g.edges) (p : String) :
    (g'.dependenciesOf p).Perm (g.dependenciesOf p) := by
  refine (List.perm_ext_iff_of_nodup (nodup_dependenciesOf g' p) (nodup_dependenciesOf g p)).2 ?_
  intro q
  rw [mem_dependenciesOf, mem_dependenciesOf, Imports.of_perm h]

theorem dependentsOf_perm (h : g'.edges.Perm g.edges) (q : String) :
    (g'.dependentsOf q).Perm (g.dependentsOf q) := by
  refine (List.perm_ext_iff_of_nodup (nodup_dependentsOf g' q) (nodup_dependentsOf g q)).2 ?_
  intro p
  rw [mem_dependentsOf, mem_dependentsOf, Imports.of_perm h]

theorem hasExternal_of_perm (h : g'.edges.Perm g.edges) (p : String) :
    g'.hasExternal p = g.hasExternal p := by
  have hedges : g'.externalEdges.Perm g.externalEdges := h.filter _
  rw [Bool.eq_iff_iff, hasExternal_iff, hasExternal_iff]
  simp only [hedges.mem_iff]

/-- **Two readings of the same edges.**  A file is among the dependencies of another one exactly if
that one is among its dependents, that is, if an edge leads from the one to the other.  Neither list
repeats anything, and both follow the first edges between the two files.  Each edge stays in the
project or leaves it, and in both lists of edges the order is kept.  A file has external
dependencies exactly if an edge leads out of the project from it.  The order of the edges has no
bearing on what is in any of these. -/
theorem queries_dual (g : Graph) :
    (∀ p q, (q ∈ g.dependenciesOf p ↔ p ∈ g.dependentsOf q) ∧
      (p ∈ g.dependentsOf q ↔ ∃ e ∈ g.edges, e.source = p ∧ e.target = .internal q)) ∧
    (∀ p, (g.dependenciesOf p).Nodup ∧
      (g.dependenciesOf p).Pairwise fun q r => g.firstEdge p q < g.firstEdge p r) ∧
    (∀ q, (g.dependentsOf q).Nodup ∧
      (g.dependentsOf q).Pairwise fun p r => g.firstEdge p q < g.firstEdge r q) ∧
    (g.internalEdges.Sublist g.edges ∧ g.externalEdges.Sublist g.edges ∧
      (∀ e, e ∈ g.internalEdges ↔ e ∈ g.edges ∧ ∃ q, e.target = .internal q) ∧
      (∀ e, e ∈ g.externalEdges ↔ e ∈ g.edges ∧ e.target = .external) ∧
      g.internalEdges.Disjoint g.externalEdges ∧
      (g.internalEdges ++ g.externalEdges).Perm g.edges) ∧
    (∀ p, g.hasExternal p = true ↔ ∃ e ∈ g.externalEdges, e.source = p) ∧
    (∀ g' : Graph, g'.edges.Perm g.edges →
      (∀ p, (g'.dependenciesOf p).Perm (g.dependenciesOf p)) ∧
      (∀ q, (g'.dependentsOf q).Perm (g.dependentsOf q)) ∧
      g'.internalEdges.Perm g.internalEdges ∧ g'.externalEdges.Perm g.externalEdges ∧
      (∀ p, g'.hasExternal p = g.hasExternal p)) := by
  refine ⟨?_, ?_, ?_, ?_, fun p => hasExternal_iff, ?_⟩
  · intro p q
    rw [mem_dependenciesOf, mem_dependentsOf]
    exact ⟨Iff.rfl, Iff.rfl⟩
  · exact fun p => ⟨nodup_dependenciesOf g p, dependenciesOf_increasing g p⟩
  · exact fun q => ⟨nodup_dependentsOf g q, dependentsOf_increasing g q⟩
  · exact ⟨List.filter_sublist, List.filter_sublist, fun e => mem_internalEdges,
      fun e => mem_externalEdges, disjoint_edges g, perm_edges g⟩
  · intro g' h
    exact ⟨dependenciesOf_perm h, dependentsOf_perm h, h.filter _, h.filter _,
      hasExternal_of_perm h⟩

/-- A file that imports itself, another one twice, and a package. -/
def parallelImports : Graph :=
  ⟨["a", "b"],
   [⟨"a", .internal "b", "./b"⟩, ⟨"a", .external, "react"⟩, ⟨"a", .internal "a", "."⟩,
    ⟨"a", .internal "b", "./b.ts"⟩]⟩

/-- Its edges in the opposite order. -/
theorem queries_dual_parallelImports :
    parallelImports.dependenciesOf "a" = ["b", "a"] ∧
    "a" ∈ parallelImports.dependentsOf "b" ∧
    (dependenciesOf ⟨[], parallelImports.edges.reverse⟩ "a").Perm ["b", "a"] ∧
    hasExternal ⟨[], parallelImports.edges.reverse⟩ "a" = true := by
  obtain ⟨hdual, -, -, -, -, hperm⟩ := queries_dual parallelImports
  obtain ⟨hdependencies, -, -, -, hexternal⟩ :=
    hperm ⟨[], parallelImports.edges.reverse⟩ (List.reverse_perm _)
  have hlist : parallelImports.dependenciesOf "a" = ["b", "a"] := by decide +kernel
  refine ⟨hlist, ?_, ?_, ?_⟩
  · rw [← (hdual "a" "b").1, hlist]
    decide
  · rw [← hlist]
    exact hdependencies "a"
  · rw [hexternal "a"]
    decide

end Graph
end SourceAtlas
