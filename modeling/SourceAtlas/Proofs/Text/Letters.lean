import SourceAtlas.Text.Case
import SourceAtlas.Text.Numeric

/-!
# Small letters are alphanumeric

The classes of characters are tables of code points that know nothing of one another.  That one
class lies within another is a property of two tables; it is tested by reading both once, and a
table that passes the test has every code point of the other one.

* `RangeTable.covers` — the test; `RangeTable.has_of_covers` — it is sound.
* `isLowercase_eq_false` — a character that separates names is no small letter, because small
  letters are alphabetic.
* `smallForm_ne_nil` — every character has a small form.
-/

namespace SourceAtlas
namespace Text

/-! ## Tables within tables -/

namespace RangeTable

/-- Whether a table has the code points `first`, `first + step`, …, `last`: all in the range with
which it begins, or one by one. -/
def holds (t : RangeTable) (first last step : Nat) : Bool :=
  t.head?.any (fun range => range.1 ≤ first && last ≤ range.2) ||
    (List.range ((last - first) / step + 1)).all fun k => t.has (first + step * k)

/-- A table without the ranges that end before `first`. -/
def ahead (t : RangeTable) (first : Nat) : RangeTable :=
  t.dropWhile fun range => range.1 ≤ first && range.2 < first

/-- Whether a table has all code points of an ascending strided table, none of which comes before
`lo`.  Ranges that have been passed are left behind. -/
def covers (lo : Nat) (t : RangeTable) : StridedTable → Bool
  | [] => true
  | (first, last, step) :: rest =>
    lo ≤ first && (t.ahead first).holds first last step && covers first (t.ahead first) rest

variable {t : RangeTable} {lo first last step n : Nat}

/-- What has been left behind is not missed. -/
theorem has_of_ahead (hfirst : first ≤ n) (h : (t.ahead first).has n = true) : t.has n = true := by
  induction t with
  | nil => exact h
  | cons range rest ih =>
      rw [ahead, List.dropWhile_cons] at h
      split at h
      · rename_i hbehind
        rw [Bool.and_eq_true, decide_eq_true_eq, decide_eq_true_eq] at hbehind
        rw [has, if_neg (by omega), if_neg (by omega)]
        exact ih h
      · exact h

theorem has_of_holds (h : t.holds first last step = true) (hfirst : first ≤ n) (hlast : n ≤ last)
    (hstep : (n - first) % step = 0) : t.has n = true := by
  rw [holds, Bool.or_eq_true, List.all_eq_true, Option.any_eq_true] at h
  rcases h with ⟨range, hhead, hin⟩ | heach
  · obtain ⟨rest, rfl⟩ := List.head?_eq_some_iff.1 hhead
    rw [Bool.and_eq_true, decide_eq_true_eq, decide_eq_true_eq] at hin
    rw [has, if_neg (by omega), if_pos (by omega)]
  · have hmem : (n - first) / step ∈ List.range ((last - first) / step + 1) := by
      rw [List.mem_range]
      exact Nat.lt_succ_of_le (Nat.div_le_div_right (Nat.sub_le_sub_right hlast first))
    have hn := heach _ hmem
    rwa [Nat.mul_div_cancel' (Nat.dvd_of_mod_eq_zero hstep), Nat.add_sub_cancel' hfirst] at hn

/-- **The test is sound.** -/
theorem has_of_covers {s : StridedTable} : ∀ {lo : Nat} {t : RangeTable},
    covers lo t s = true → s.has n = true → lo ≤ n ∧ t.has n = true := by
  induction s with
  | nil =>
      intro lo t _ hn
      cases hn
  | cons range rest ih =>
      obtain ⟨first, last, step⟩ := range
      intro lo t h hn
      simp only [covers, Bool.and_eq_true, decide_eq_true_eq] at h
      obtain ⟨⟨hlo, hholds⟩, hrest⟩ := h
      have hahead : first ≤ n ∧ (t.ahead first).has n = true := by
        rw [StridedTable.has] at hn
        split at hn
        · cases hn
        · rename_i hfirst
          split at hn
          · rename_i hin
            rw [Bool.and_eq_true, decide_eq_true_eq, beq_iff_eq] at hin
            have hle : first ≤ n := Nat.le_of_not_lt hfirst
            exact ⟨hle, has_of_holds hholds hle hin.1 hin.2⟩
          · exact ih hrest hn
      exact ⟨Nat.le_trans hlo hahead.1, has_of_ahead hahead.1 hahead.2⟩

end RangeTable

/-! ## Letters -/

theorem isAlphabetic_of_isLowercase {c : Char} (h : isLowercase c = true) :
    isAlphabetic c = true := by
  have htables : RangeTable.covers 0 alphabeticTable lowercaseTable = true := by decide +kernel
  exact (RangeTable.has_of_covers htables h).2

/-- A character that separates names is no small letter. -/
theorem isLowercase_eq_false {c : Char} (h : isAlphanumeric c = false) : isLowercase c = false := by
  refine Bool.eq_false_iff.2 fun hsmall => ?_
  rw [isAlphanumeric, isAlphabetic_of_isLowercase hsmall, Bool.true_or, Bool.true_or] at h
  cases h

theorem smallForm_ne_nil (c : Char) : smallForm c ≠ [] := by
  unfold smallForm
  split
  · exact List.cons_ne_nil _ _
  · split <;> exact List.cons_ne_nil _ _

end Text
end SourceAtlas
