import Mathlib.Algebra.Order.Ring.Nat
import SourceAtlas.Architecture

/-!
# When one side dominates

The styles compare one count with one and a half times the other, in numbers of fifty-three bits.
Small counts are not rounded, so the comparison is the exact one of three to two.  Large counts are;
but rounding keeps their order and takes away less than a third, and that is enough for the
relations between the styles to hold of all counts.

* `Rounding.nearest`, `Rounding.toBits_eq_nearest` — rounding takes the nearest multiple of a unit
  that grows with the number;
* `Rounding.toBits_of_lt`, `Rounding.toBits_mono`, `Rounding.two_mul_lt_three_mul_toDouble` — what
  it leaves as it is, that it keeps the order, and how much it may take away;
* `Architecture.not_dominates_both` — of two sides, only one can dominate;
* `Architecture.classify_threeToTwo` — the rule of three to two.
-/

namespace SourceAtlas

namespace Rounding

/-! ## The nearest multiple -/

/-- Whether a number lies closer to the multiple of `unit` above it than to the one below; if it
lies halfway, whether the one below is odd. -/
def RoundsUp (unit n : Nat) : Prop :=
  unit < 2 * (n % unit) ∨ unit = 2 * (n % unit) ∧ n / unit % 2 = 1

instance (unit n : Nat) : Decidable (RoundsUp unit n) := inferInstanceAs (Decidable (_ ∨ _))

/-- The nearest multiple of `unit`; a half goes to the even one. -/
def nearest (unit n : Nat) : Nat := (if RoundsUp unit n then n / unit + 1 else n / unit) * unit

/-- The distance between the numbers of so many bits that have the size of `n`. -/
def ulp (bits n : Nat) : Nat := 2 ^ (n.log2 + 1 - bits)

theorem ulp_pos (bits n : Nat) : 0 < ulp bits n := Nat.two_pow_pos _

theorem toBits_eq_nearest (bits n : Nat) : toBits bits n = nearest (ulp bits n) n := by
  have hup : (decide (ulp bits n < 2 * (n % ulp bits n)) ||
      (ulp bits n == 2 * (n % ulp bits n) && n / ulp bits n % 2 == 1)) = true ↔
        RoundsUp (ulp bits n) n := by
    simp [RoundsUp]
  unfold nearest
  by_cases h : RoundsUp (ulp bits n) n
  · rw [if_pos h]
    exact if_pos (hup.2 h)
  · rw [if_neg h]
    exact if_neg (mt hup.1 h)

section

variable {unit m n : Nat}

theorem nearest_one (n : Nat) : nearest 1 n = n := by
  have hup : ¬ RoundsUp 1 n := by
    unfold RoundsUp
    omega
  rw [nearest, if_neg hup, Nat.div_one, Nat.mul_one]

theorem div_mul_le_nearest : n / unit * unit ≤ nearest unit n := by
  unfold nearest
  split
  · exact Nat.mul_le_mul_right _ (Nat.le_succ _)
  · exact Nat.le_refl _

theorem nearest_le : nearest unit n ≤ (n / unit + 1) * unit := by
  unfold nearest
  split
  · exact Nat.le_refl _
  · exact Nat.mul_le_mul_right _ (Nat.le_succ _)

theorem nearest_mono (h : m ≤ n) : nearest unit m ≤ nearest unit n := by
  rcases Nat.lt_or_eq_of_le (Nat.div_le_div_right h : m / unit ≤ n / unit) with hlt | heq
  · -- Between the two numbers lies a multiple, and rounding crosses none.
    calc nearest unit m ≤ (m / unit + 1) * unit := nearest_le
      _ ≤ n / unit * unit := Nat.mul_le_mul_right _ hlt
      _ ≤ nearest unit n := div_mul_le_nearest
  · have hmod : m % unit ≤ n % unit := by
      have hm := Nat.div_add_mod m unit
      have hn := Nat.div_add_mod n unit
      rw [heq] at hm
      omega
    have hup : RoundsUp unit m → RoundsUp unit n := by
      unfold RoundsUp
      rw [heq]
      omega
    unfold nearest
    rw [heq]
    refine Nat.mul_le_mul_right _ ?_
    by_cases hm : RoundsUp unit m
    · rw [if_pos hm, if_pos (hup hm)]
    · rw [if_neg hm]
      split <;> omega

end

/-! ## Rounding to bits -/

section

variable {bits m n : Nat}

/-- A number that has so many bits is not rounded. -/
theorem toBits_of_lt (hbits : 0 < bits) (h : n < 2 ^ bits) : toBits bits n = n := by
  have hlog : n.log2 + 1 - bits = 0 := by
    by_cases hn : n = 0
    · rw [hn, Nat.log2_zero]
      omega
    · have := (Nat.log2_lt hn).2 h
      omega
  rw [toBits_eq_nearest, ulp, hlog, pow_zero, nearest_one]

theorem toBits_le_two_pow : toBits bits n ≤ 2 ^ (n.log2 + 1) := by
  have hsplit : 2 ^ (n.log2 + 1) = ulp bits n * 2 ^ (n.log2 + 1 - (n.log2 + 1 - bits)) := by
    rw [ulp, ← pow_add]
    congr 1
    omega
  have hlt : n / ulp bits n < 2 ^ (n.log2 + 1 - (n.log2 + 1 - bits)) :=
    Nat.div_lt_of_lt_mul (hsplit ▸ Nat.lt_log2_self)
  calc toBits bits n = nearest (ulp bits n) n := toBits_eq_nearest bits n
    _ ≤ (n / ulp bits n + 1) * ulp bits n := nearest_le
    _ ≤ 2 ^ (n.log2 + 1 - (n.log2 + 1 - bits)) * ulp bits n := Nat.mul_le_mul_right _ hlt
    _ = 2 ^ (n.log2 + 1) := by rw [Nat.mul_comm, ← hsplit]

theorem two_pow_le_toBits (hbits : 0 < bits) (hn : n ≠ 0) : 2 ^ n.log2 ≤ toBits bits n := by
  have hsplit : 2 ^ n.log2 = 2 ^ (n.log2 - (n.log2 + 1 - bits)) * ulp bits n := by
    rw [ulp, ← pow_add]
    congr 1
    omega
  have hle : 2 ^ (n.log2 - (n.log2 + 1 - bits)) ≤ n / ulp bits n := by
    rw [Nat.le_div_iff_mul_le (ulp_pos bits n), ← hsplit]
    exact Nat.log2_self_le hn
  calc 2 ^ n.log2 = 2 ^ (n.log2 - (n.log2 + 1 - bits)) * ulp bits n := hsplit
    _ ≤ n / ulp bits n * ulp bits n := Nat.mul_le_mul_right _ hle
    _ ≤ nearest (ulp bits n) n := div_mul_le_nearest
    _ = toBits bits n := (toBits_eq_nearest bits n).symm

/-- **Rounding keeps the order.**  Numbers of one size are rounded to multiples of one unit; of two
sizes, a power of two stands between them. -/
theorem toBits_mono (hbits : 0 < bits) (h : m ≤ n) : toBits bits m ≤ toBits bits n := by
  by_cases hm : m = 0
  · rw [hm, toBits_of_lt hbits (Nat.two_pow_pos _)]
    exact Nat.zero_le _
  · have hn : n ≠ 0 := by omega
    have hlog : m.log2 ≤ n.log2 := (Nat.le_log2 hn).2 ((Nat.log2_self_le hm).trans h)
    rcases Nat.lt_or_eq_of_le hlog with hlt | heq
    · calc toBits bits m ≤ 2 ^ (m.log2 + 1) := toBits_le_two_pow
        _ ≤ 2 ^ n.log2 := Nat.pow_le_pow_right (by decide) hlt
        _ ≤ toBits bits n := two_pow_le_toBits hbits hn
    · rw [toBits_eq_nearest, toBits_eq_nearest, ulp, ulp, heq]
      exact nearest_mono h

end

theorem toDouble_of_lt {n : Nat} (h : n < 2 ^ 53) : toDouble n = n := toBits_of_lt (by decide) h

theorem toDouble_mono {m n : Nat} (h : m ≤ n) : toDouble m ≤ toDouble n :=
  toBits_mono (by decide) h

/-- Rounding takes away less than a third of a number. -/
theorem two_mul_lt_three_mul_toDouble {n : Nat} (hn : 0 < n) : 2 * n < 3 * toDouble n := by
  by_cases hsmall : n < 2 ^ 53
  · rw [toDouble_of_lt hsmall]
    omega
  · have hlog : 53 ≤ n.log2 := (Nat.le_log2 hn.ne').2 (Nat.le_of_not_lt hsmall)
    have hunit : ulp 53 n * 2 ^ 52 ≤ n := by
      rw [ulp, ← pow_add, show n.log2 + 1 - 53 + 52 = n.log2 by omega]
      exact Nat.log2_self_le hn.ne'
    have hbelow : n / ulp 53 n * ulp 53 n ≤ toDouble n := by
      rw [toDouble, toBits_eq_nearest]
      exact div_mul_le_nearest
    have hrest := Nat.div_add_mod' n (ulp 53 n)
    have hmod := Nat.mod_lt n (ulp_pos 53 n)
    omega

end Rounding

namespace Architecture

open Rounding

variable {a b c f : Nat}

/-! ## The comparison -/

theorem dominates_iff : dominates a b = true ↔ toDouble (3 * toDouble b) ≤ 2 * toDouble a :=
  decide_eq_true_iff

/-- Small counts are compared exactly. -/
theorem dominates_iff_of_le (ha : a ≤ 2 ^ 51) (hb : b ≤ 2 ^ 51) :
    dominates a b = true ↔ 3 * b ≤ 2 * a := by
  rw [dominates_iff, toDouble_of_lt (n := a) (by omega), toDouble_of_lt (n := b) (by omega),
    toDouble_of_lt (by omega)]

theorem dominates_mono {a' b' : Nat} (ha : a ≤ a') (hb : b' ≤ b) (h : dominates a b = true) :
    dominates a' b' = true := by
  rw [dominates_iff] at h ⊢
  calc toDouble (3 * toDouble b') ≤ toDouble (3 * toDouble b) :=
        toDouble_mono (Nat.mul_le_mul_left 3 (toDouble_mono hb))
    _ ≤ 2 * toDouble a := h
    _ ≤ 2 * toDouble a' := Nat.mul_le_mul_left 2 (toDouble_mono ha)

/-- What dominates something is the greater one, even after rounding. -/
theorem toDouble_lt_of_dominates (hb : 0 < b) (h : dominates a b = true) :
    toDouble b < toDouble a := by
  rw [dominates_iff] at h
  have hrounded := two_mul_lt_three_mul_toDouble hb
  have htriple := two_mul_lt_three_mul_toDouble (n := 3 * toDouble b) (by omega)
  omega

theorem not_dominates_both (ha : 0 < a) (hb : 0 < b) (h : dominates a b = true) :
    ¬ dominates b a = true := by
  intro h'
  have hlt := toDouble_lt_of_dominates hb h
  have hgt := toDouble_lt_of_dominates ha h'
  omega

/-! ## The styles -/

theorem classify_eq_objectOriented_iff :
    classify c f = .objectOriented ↔ 0 < c ∧ dominates c f = true := by
  unfold classify
  split
  · rename_i h
    simpa using h
  · rename_i h
    split <;> simpa using h

/-- The first test has precedence, but nothing passes both. -/
theorem classify_eq_functionalProcedural_iff :
    classify c f = .functionalProcedural ↔ 0 < f ∧ dominates f c = true := by
  unfold classify
  split
  · rename_i h
    simp only [Bool.and_eq_true, decide_eq_true_eq] at h
    refine iff_of_false (by decide) fun h' => ?_
    exact not_dominates_both h.1 h'.1 h.2 h'.2
  · split
    · rename_i h
      simpa using h
    · rename_i h
      simpa using h

theorem classify_eq_mixed_iff : classify c f = .mixed ↔
    ¬ (0 < c ∧ dominates c f = true) ∧ ¬ (0 < f ∧ dominates f c = true) := by
  rw [← classify_eq_objectOriented_iff, ← classify_eq_functionalProcedural_iff]
  cases classify c f <;> decide

/-- **The rule of three to two.**  Counts up to `2 ^ 51`, and one and a half times such counts, are
not rounded; so a project is object-oriented if it has classes and three times its functions are at
most twice its classes, functional or procedural the other way round, and mixed otherwise.  For
counts of any size, no project passes both tests, exchanging the counts exchanges these two styles,
and more classes or fewer functions never take a project away from the object-oriented ones. -/
theorem classify_threeToTwo :
    (∀ n ≤ 3 * 2 ^ 51, toDouble n = n) ∧
    (∀ c f, c ≤ 2 ^ 51 → f ≤ 2 ^ 51 →
      (classify c f = .objectOriented ↔ 0 < c ∧ 3 * f ≤ 2 * c) ∧
      (classify c f = .functionalProcedural ↔ 0 < f ∧ 3 * c ≤ 2 * f) ∧
      (classify c f = .mixed ↔
        ¬ (0 < c ∧ 3 * f ≤ 2 * c) ∧ ¬ (0 < f ∧ 3 * c ≤ 2 * f))) ∧
    (∀ c f, ¬ ((0 < c ∧ dominates c f = true) ∧ 0 < f ∧ dominates f c = true)) ∧
    (∀ c f, classify c f = .objectOriented ↔ classify f c = .functionalProcedural) ∧
    (∀ c c' f f', c ≤ c' → f' ≤ f → classify c f = .objectOriented →
      classify c' f' = .objectOriented) := by
  refine ⟨fun n hn => toDouble_of_lt (by omega), ?_, ?_, ?_, ?_⟩
  · intro c f hc hf
    rw [classify_eq_objectOriented_iff, classify_eq_functionalProcedural_iff, classify_eq_mixed_iff,
      dominates_iff_of_le hc hf, dominates_iff_of_le hf hc]
    exact ⟨Iff.rfl, Iff.rfl, Iff.rfl⟩
  · rintro c f ⟨⟨hc, hclasses⟩, hf, hfunctions⟩
    exact not_dominates_both hc hf hclasses hfunctions
  · intro c f
    rw [classify_eq_objectOriented_iff, classify_eq_functionalProcedural_iff]
  · intro c c' f f' hc hf h
    rw [classify_eq_objectOriented_iff] at h ⊢
    exact ⟨h.1.trans_le hc, dominates_mono hc hf h.2⟩

/-- At the threshold, on both sides of it and with the counts exchanged. -/
theorem classify_threeToTwo_threshold :
    classify (3 * 2 ^ 49) (2 ^ 50) = .objectOriented ∧
    classify (3 * 2 ^ 49 - 1) (2 ^ 50) = .mixed ∧
    classify (2 ^ 50) (3 * 2 ^ 49) = .functionalProcedural ∧
    classify (2 ^ 64) (2 ^ 50) = .objectOriented := by
  obtain ⟨-, hrule, -, hswap, hmore⟩ := classify_threeToTwo
  have hat : classify (3 * 2 ^ 49) (2 ^ 50) = .objectOriented :=
    (hrule _ _ (by decide) (by decide)).1.2 (by decide)
  refine ⟨hat, ?_, (hswap _ _).1 hat, hmore _ _ _ _ (by decide) (Nat.le_refl _) hat⟩
  exact (hrule _ _ (by decide) (by decide)).2.2.2 (by decide)

end Architecture

end SourceAtlas
