import Mathlib.Data.List.Infix
import Mathlib.Data.List.TakeWhile
import SourceAtlas.Text.Cut

/-!
# Cutting texts

What each cut says about the text that was cut: the parts, put together again, make up the text, and
where the cut is made at the first or the last mark, no mark is left on the side that was searched
before it.
-/

namespace SourceAtlas
namespace Text

variable {c : Char} {s head tail before after rest : List Char}

/-! ## At the front and at the end -/

theorem afterHead?_eq_some_iff : afterHead? head s = some rest ↔ s = head ++ rest := by
  unfold afterHead?
  constructor
  · intro h
    split at h
    · rename_i hhead
      obtain ⟨more, rfl⟩ := List.isPrefixOf_iff_prefix.1 hhead
      simpa using h
    · cases h
  · rintro rfl
    simp

theorem beforeTail?_eq_some_iff : beforeTail? tail s = some before ↔ s = before ++ tail := by
  unfold beforeTail?
  constructor
  · intro h
    split at h
    · rename_i htail
      obtain ⟨more, rfl⟩ := List.isSuffixOf_iff_suffix.1 htail
      simpa using h
    · cases h
  · rintro rfl
    simp

theorem endsWith_iff {s tail : String} : endsWith s tail = true ↔ ∃ front, s = front ++ tail := by
  rw [endsWith, List.isSuffixOf_iff_suffix]
  constructor
  · rintro ⟨front, h⟩
    exact ⟨String.ofList front, by simp [← String.toList_inj, h]⟩
  · rintro ⟨front, rfl⟩
    simp

theorem beforeTail?_toList_eq_none {s tail : String} (h : endsWith s tail = false) :
    beforeTail? tail.toList s.toList = none := by
  rw [endsWith] at h
  simp [beforeTail?, h]

/-! ## Somewhere -/

theorem occursIn_iff_infix {needle : List Char} : occursIn needle s = true ↔ needle <:+: s := by
  induction s with
  | nil => simp [occursIn]
  | cons c s ih =>
      rw [occursIn, Bool.or_eq_true, List.isPrefixOf_iff_prefix, ih, List.infix_cons_iff]

/-- What stands in a text stands in every longer one. -/
theorem contains_append {s needle : String} (h : contains s needle = true) (front back : String) :
    contains (front ++ s ++ back) needle = true := by
  rw [contains, occursIn_iff_infix] at h ⊢
  rw [String.toList_append, String.toList_append]
  exact h.trans (List.infix_append _ _ _)

/-! ## At a character -/

theorem occursIn_singleton : occursIn [c] s = true ↔ c ∈ s := by
  induction s with
  | nil => simp [occursIn]
  | cons d s ih => simp [occursIn, ih]

theorem contains_slash {s : String} : contains s "/" = true ↔ '/' ∈ s.toList := occursIn_singleton

theorem cutFirst?_append (h : c ∉ before) :
    cutFirst? c (before ++ c :: after) = some (before, after) := by
  have hbefore : ∀ d ∈ before, (d ≠ c : Bool) = true := by
    intro d hd
    simpa using ne_of_mem_of_not_mem hd h
  rw [cutFirst?, List.span_eq_takeWhile_dropWhile, List.takeWhile_append_of_pos hbefore,
    List.dropWhile_append_of_pos hbefore]
  simp

theorem cutFirst?_eq_none (h : c ∉ s) : cutFirst? c s = none := by
  have hs : ∀ d ∈ s, (d ≠ c : Bool) = true := by
    intro d hd
    simpa using ne_of_mem_of_not_mem hd h
  rw [cutFirst?, List.span_eq_takeWhile_dropWhile, List.dropWhile_eq_nil_iff.2 hs]

theorem cutFirst?_eq_some_iff :
    cutFirst? c s = some (before, after) ↔ s = before ++ c :: after ∧ c ∉ before := by
  constructor
  · intro h
    by_cases hc : c ∈ s
    · obtain ⟨front, more, rfl, hfront⟩ := List.eq_append_cons_of_mem hc
      rw [cutFirst?_append hfront, Option.some_inj, Prod.mk.injEq] at h
      obtain ⟨rfl, rfl⟩ := h
      exact ⟨rfl, hfront⟩
    · rw [cutFirst?_eq_none hc] at h
      cases h
  · rintro ⟨rfl, hbefore⟩
    exact cutFirst?_append hbefore

theorem cutLast?_eq_some_iff :
    cutLast? c s = some (before, after) ↔ s = before ++ c :: after ∧ c ∉ after := by
  rw [cutLast?, Option.map_eq_some_iff]
  constructor
  · rintro ⟨⟨back, front⟩, h, heq⟩
    obtain ⟨rfl, rfl⟩ := Prod.mk.inj heq
    obtain ⟨hs, hback⟩ := cutFirst?_eq_some_iff.1 h
    refine ⟨?_, by simpa using hback⟩
    rw [← List.reverse_reverse s, hs]
    simp
  · rintro ⟨rfl, hafter⟩
    refine ⟨(after.reverse, before.reverse), ?_, by simp⟩
    rw [cutFirst?_eq_some_iff]
    simpa using hafter

/-- A string with a dot has a last one. -/
theorem exists_last_dot {s : String} (h : '.' ∈ s.toList) :
    ∃ front back, s = front ++ "." ++ back ∧ '.' ∉ back.toList := by
  obtain ⟨after, before, hs, hafter⟩ := List.eq_append_cons_of_mem (List.mem_reverse.2 h)
  refine ⟨String.ofList before.reverse, String.ofList after.reverse, ?_, by simpa using hafter⟩
  rw [← String.toList_inj]
  simpa using congrArg List.reverse hs

end Text
end SourceAtlas
