/-!
# Sorting by keys

A list that is sorted by the keys of its elements is in their order (`mergeSort_key_le`), strictly
if no two keys are the same (`mergeSort_key_lt`).  The sort is stable, so a part of a list stays a
part of it when both are sorted (`sublist_mergeSort_key`).
-/

namespace SourceAtlas

section Preorder

variable {α κ : Type} [LE κ] [DecidableLE κ] [Std.IsLinearPreorder κ] (key : α → κ)

theorem decide_key_le_trans (a b c : α) :
    decide (key a ≤ key b) → decide (key b ≤ key c) → decide (key a ≤ key c) := by
  simpa using fun hab hbc => Std.le_trans (c := key c) hab hbc

theorem decide_key_le_total (a b : α) : decide (key a ≤ key b) || decide (key b ≤ key a) := by
  simpa using Std.le_total (a := key a) (b := key b)

theorem mergeSort_key_le (l : List α) :
    (l.mergeSort fun a b => key a ≤ key b).Pairwise fun a b => key a ≤ key b :=
  (List.pairwise_mergeSort (decide_key_le_trans key) (decide_key_le_total key) l).imp
    of_decide_eq_true

/-- The sorted list falls into the elements with a smaller key than that of `a`, and the others. -/
theorem mergeSort_key_cons (a : α) (l : List α) :
    ((a :: l).mergeSort fun a b => key a ≤ key b) =
      (l.mergeSort fun a b => key a ≤ key b).filter (fun b => ¬ key a ≤ key b) ++
        a :: (l.mergeSort fun a b => key a ≤ key b).filter (fun b => key a ≤ key b) := by
  obtain ⟨before, after, hcons, hl, hbefore⟩ :=
    List.mergeSort_cons (decide_key_le_trans key) (decide_key_le_total key) a l
  have hsorted := mergeSort_key_le key (a :: l)
  rw [hcons, List.pairwise_append, List.pairwise_cons] at hsorted
  have hafter : ∀ b ∈ after, key a ≤ key b := hsorted.2.1.1
  simp only [Bool.not_eq_true', decide_eq_false_iff_not] at hbefore
  rw [hcons, hl, List.filter_append, List.filter_append,
    List.filter_eq_self.2 (by simpa using hbefore),
    List.filter_eq_nil_iff.2 (by simpa using hafter),
    List.filter_eq_nil_iff.2 (by simpa using hbefore),
    List.filter_eq_self.2 (by simpa using hafter), List.append_nil, List.nil_append]

/-- **Sorting keeps parts of lists.** -/
theorem sublist_mergeSort_key {l l' : List α} (h : l.Sublist l') :
    (l.mergeSort fun a b => key a ≤ key b).Sublist (l'.mergeSort fun a b => key a ≤ key b) := by
  induction h with
  | slnil => exact List.Sublist.refl _
  | @cons l l' a _ ih =>
      obtain ⟨before, after, hcons, hl', -⟩ :=
        List.mergeSort_cons (decide_key_le_trans key) (decide_key_le_total key) a l'
      rw [hl'] at ih
      rw [hcons]
      exact ih.trans ((List.sublist_cons_self a after).append_left before)
  | cons_cons a _ ih =>
      rw [mergeSort_key_cons, mergeSort_key_cons]
      exact (ih.filter _).append ((ih.filter _).cons_cons a)

end Preorder

section Order

variable {α κ : Type} [LE κ] [DecidableLE κ] [LT κ] [Std.IsLinearOrder κ] [Std.LawfulOrderLT κ]
  (key : α → κ)

/-- Sorting by keys that are all different makes the keys increase. -/
theorem mergeSort_key_lt {l : List α} (h : l.Pairwise fun a b => key a ≠ key b) :
    (l.mergeSort fun a b => key a ≤ key b).Pairwise fun a b => key a < key b := by
  have hdistinct : (l.mergeSort fun a b => key a ≤ key b).Pairwise fun a b => key a ≠ key b :=
    ((List.mergeSort_perm l _).pairwise_iff fun hne => hne.symm).2 h
  refine ((mergeSort_key_le key l).and hdistinct).imp ?_
  rintro a b ⟨hle, hne⟩
  exact Std.lt_of_le_of_ne hle hne

omit [DecidableLE κ] [Std.IsLinearOrder κ] in
/-- In a list whose keys increase, the elements are told apart by their keys. -/
theorem eq_of_key_eq {l : List α} (h : l.Pairwise fun a b => key a < key b) {a b : α} (ha : a ∈ l)
    (hb : b ∈ l) (hkey : key a = key b) : a = b := by
  induction h with
  | nil => cases ha
  | @cons c l hhead _ ih =>
      rcases List.mem_cons.1 ha with rfl | ha' <;> rcases List.mem_cons.1 hb with rfl | hb'
      · rfl
      · exact absurd (hkey ▸ hhead b hb') Std.lt_irrefl
      · exact absurd (hkey ▸ hhead a ha') Std.lt_irrefl
      · exact ih ha' hb'

end Order

end SourceAtlas
