import Mathlib.Algebra.Order.Ring.Nat
import Mathlib.Data.Nat.Log
import Mathlib.Tactic.Ring
import SimilarItems.Binary64.Arithmetic

/-!
# Rounding keeps order

A larger quotient is never rounded to a smaller magnitude, and a larger magnitude is worth more
units. So what holds of the largest factors holds of all products of smaller ones.
-/

namespace SimilarItems

/-! ## Rounding to integers -/

theorem le_roundHalfEven (num den : Nat) : num / den ≤ roundHalfEven num den := by
  simp only [roundHalfEven]
  split_ifs <;> omega

theorem roundHalfEven_le (num den : Nat) : roundHalfEven num den ≤ num / den + 1 := by
  simp only [roundHalfEven]
  split_ifs <;> omega

theorem roundHalfEven_mono {a b : Nat} (den : Nat) (h : a ≤ b) :
    roundHalfEven a den ≤ roundHalfEven b den := by
  rcases Nat.lt_or_eq_of_le (Nat.div_le_div_right (c := den) h) with hlt | heq
  · exact (roundHalfEven_le a den).trans (Nat.succ_le_of_lt hlt |>.trans (le_roundHalfEven b den))
  · have hmod : a % den ≤ b % den := by
      have ha := Nat.div_add_mod a den
      have hb := Nat.div_add_mod b den
      rw [heq] at ha
      omega
    simp only [roundHalfEven]
    rw [heq]
    split_ifs <;> omega

theorem roundHalfEven_le_of_le {num den k : Nat} (h : num ≤ den * k) :
    roundHalfEven num den ≤ k := by
  rcases Nat.eq_zero_or_pos den with rfl | hden
  · rw [Nat.zero_mul, Nat.le_zero] at h
    subst h
    simp [roundHalfEven]
  · have := roundHalfEven_mono den h
    have hexact : roundHalfEven (den * k) den = k := by
      simp only [roundHalfEven]
      rw [Nat.mul_div_cancel_left k hden, Nat.mul_mod_right, if_pos (by omega)]
    rwa [hexact] at this

theorem le_roundHalfEven_of_le {num den k : Nat} (hden : 0 < den) (h : den * k ≤ num) :
    k ≤ roundHalfEven num den := by
  refine le_trans ?_ (le_roundHalfEven num den)
  rw [Nat.le_div_iff_mul_le hden, Nat.mul_comm]
  exact h

namespace Binary64

/-! ## Units -/

/-- Magnitudes of one binade are worth less than those of the next. -/
theorem unitsOf_lt_pow (m : Nat) : unitsOf m < 2 ^ (m / 2 ^ 52 + 52) := by
  unfold unitsOf
  have hmod : m % 2 ^ 52 < 2 ^ 52 := Nat.mod_lt _ (by decide)
  by_cases h : m < 2 ^ 52
  · rw [if_pos h, Nat.div_eq_of_lt h, Nat.zero_add]
    exact h
  · have hpos : 0 < m / 2 ^ 52 := Nat.div_pos (by omega) (by decide)
    rw [if_neg h]
    calc (2 ^ 52 + m % 2 ^ 52) * 2 ^ (m / 2 ^ 52 - 1)
        < 2 ^ 53 * 2 ^ (m / 2 ^ 52 - 1) :=
          Nat.mul_lt_mul_of_pos_right (by omega) (Nat.pow_pos (by decide))
      _ = 2 ^ (m / 2 ^ 52 + 52) := by
          rw [← pow_add]
          congr 1
          omega

theorem pow_le_unitsOf {m : Nat} (h : 2 ^ 52 ≤ m) : 2 ^ (m / 2 ^ 52 + 51) ≤ unitsOf m := by
  unfold unitsOf
  have hpos : 0 < m / 2 ^ 52 := Nat.div_pos h (by decide)
  rw [if_neg (by omega)]
  calc 2 ^ (m / 2 ^ 52 + 51) = 2 ^ 52 * 2 ^ (m / 2 ^ 52 - 1) := by
        rw [← pow_add]
        congr 1
        omega
    _ ≤ (2 ^ 52 + m % 2 ^ 52) * 2 ^ (m / 2 ^ 52 - 1) :=
        Nat.mul_le_mul_right _ (Nat.le_add_right _ _)

theorem unitsOf_mono {m n : Nat} (h : m ≤ n) : unitsOf m ≤ unitsOf n := by
  rcases Nat.lt_or_eq_of_le (Nat.div_le_div_right (c := 2 ^ 52) h) with hlt | heq
  · have hn : 2 ^ 52 ≤ n := by
      by_contra hn
      rw [Nat.div_eq_of_lt (by omega : n < 2 ^ 52)] at hlt
      omega
    refine (unitsOf_lt_pow m).le.trans (le_trans ?_ (pow_le_unitsOf hn))
    exact Nat.pow_le_pow_right (by decide) (by omega)
  · unfold unitsOf
    by_cases hn : n < 2 ^ 52
    · rw [if_pos hn, if_pos (by omega)]
      exact h
    · have hm : ¬ m < 2 ^ 52 := by
        intro hm
        rw [Nat.div_eq_of_lt hm] at heq
        have : 0 < n / 2 ^ 52 := Nat.div_pos (by omega) (by decide)
        omega
      rw [if_neg hn, if_neg hm, heq]
      refine Nat.mul_le_mul_right _ ?_
      have hm := Nat.div_add_mod m (2 ^ 52)
      have hn := Nat.div_add_mod n (2 ^ 52)
      rw [heq] at hm
      omega

theorem unitsPerOne_pos : 0 < unitsPerOne := by decide +kernel

theorem unitsOf_pos {m : Nat} (h : 0 < m) : 0 < unitsOf m :=
  lt_of_lt_of_le (by decide) (unitsOf_mono h)

/-- The distance to the next magnitude. -/
theorem unitsOf_succ (m : Nat) : unitsOf (m + 1) = unitsOf m + 2 ^ (m / 2 ^ 52 - 1) := by
  have hm := Nat.div_add_mod m (2 ^ 52)
  have hmod : m % 2 ^ 52 < 2 ^ 52 := Nat.mod_lt _ (by decide)
  unfold unitsOf
  by_cases hlast : m % 2 ^ 52 + 1 = 2 ^ 52
  · -- The next magnitude is the first of its binade.
    have hdiv : (m + 1) / 2 ^ 52 = m / 2 ^ 52 + 1 := by omega
    have hmod' : (m + 1) % 2 ^ 52 = 0 := by omega
    rw [hdiv, hmod', if_neg (by omega), Nat.add_zero, Nat.add_sub_cancel]
    by_cases hsmall : m < 2 ^ 52
    · rw [if_pos hsmall, Nat.div_eq_of_lt hsmall]
      omega
    · have hpos : 0 < m / 2 ^ 52 := Nat.div_pos (by omega) (by decide)
      have hpow : 2 ^ (m / 2 ^ 52) = 2 * 2 ^ (m / 2 ^ 52 - 1) := by
        rw [← pow_succ', Nat.sub_add_cancel hpos]
      have hnext : 2 ^ 52 + m % 2 ^ 52 + 1 = 2 ^ 52 * 2 := by omega
      rw [if_neg hsmall, hpow, ← Nat.succ_mul, Nat.succ_eq_add_one, hnext, mul_assoc]
  · have hdiv : (m + 1) / 2 ^ 52 = m / 2 ^ 52 := by omega
    have hmod' : (m + 1) % 2 ^ 52 = m % 2 ^ 52 + 1 := by omega
    rw [hdiv, hmod']
    by_cases hsmall : m < 2 ^ 52
    · rw [if_pos hsmall, if_pos (by omega), Nat.div_eq_of_lt hsmall]
      rfl
    · rw [if_neg hsmall, if_neg (by omega), ← Nat.succ_mul]
      rfl

/-- A magnitude is worth at most `2 ^ 53` times its distance to the next one. -/
theorem unitsOf_succ_le (m : Nat) : unitsOf (m + 1) ≤ 2 ^ 53 * 2 ^ (m / 2 ^ 52 - 1) := by
  have hmod : m % 2 ^ 52 < 2 ^ 52 := Nat.mod_lt _ (by decide)
  rw [unitsOf_succ]
  unfold unitsOf
  by_cases hsmall : m < 2 ^ 52
  · rw [if_pos hsmall, Nat.div_eq_of_lt hsmall]
    omega
  · rw [if_neg hsmall, ← Nat.succ_mul]
    exact Nat.mul_le_mul_right _ (by omega)

/-! ## Rounding to magnitudes -/

/-- The exponent field of what a quotient is rounded to, or one less if it is carried. -/
theorem nearest_bounds (num : Nat) {den : Nat} (hden : 0 < den) :
    roundHalfEven num (den * 2 ^ (Nat.log2 (num / den) - 52)) ≤ 2 ^ 53 ∧
      (52 < Nat.log2 (num / den) →
        2 ^ 52 ≤ roundHalfEven num (den * 2 ^ (Nat.log2 (num / den) - 52))) := by
  constructor
  · refine roundHalfEven_le_of_le ?_
    have hlt : num / den < 2 ^ (Nat.log2 (num / den) + 1) := Nat.lt_log2_self
    have hle : num / den < 2 ^ (Nat.log2 (num / den) - 52) * 2 ^ 53 := by
      refine hlt.trans_le ?_
      rw [← pow_add]
      exact Nat.pow_le_pow_right (by decide) (by omega)
    have := (Nat.div_lt_iff_lt_mul hden).1 hle
    calc num ≤ 2 ^ (Nat.log2 (num / den) - 52) * 2 ^ 53 * den := this.le
      _ = den * 2 ^ (Nat.log2 (num / den) - 52) * 2 ^ 53 := by ring
  · intro hlog
    refine le_roundHalfEven_of_le (Nat.mul_pos hden (Nat.pow_pos (by decide))) ?_
    have hne : num / den ≠ 0 := by
      intro hzero
      rw [hzero] at hlog
      exact absurd hlog (by decide)
    have hle : 2 ^ (Nat.log2 (num / den) - 52) * 2 ^ 52 ≤ num / den := by
      rw [← pow_add, Nat.sub_add_cancel hlog.le]
      exact Nat.log2_self_le hne
    calc den * 2 ^ (Nat.log2 (num / den) - 52) * 2 ^ 52
        = 2 ^ (Nat.log2 (num / den) - 52) * 2 ^ 52 * den := by ring
      _ ≤ num / den * den := Nat.mul_le_mul_right den hle
      _ ≤ num := Nat.div_mul_le_self num den

theorem log2_mono {a b : Nat} (h : a ≤ b) : Nat.log2 a ≤ Nat.log2 b := by
  rw [Nat.log2_eq_log_two, Nat.log2_eq_log_two]
  exact Nat.log_mono_right h

/-- A larger number is not rounded to a smaller magnitude. -/
theorem nearest_mono {a b den : Nat} (hden : 0 < den) (h : a ≤ b) :
    nearest a den ≤ nearest b den := by
  unfold nearest
  refine min_le_min_left _ ?_
  have hlog := log2_mono (Nat.div_le_div_right (c := den) h)
  rcases Nat.lt_or_eq_of_le (Nat.sub_le_sub_right hlog 52) with hlt | heq
  · have ha := (nearest_bounds a hden).1
    have hb := (nearest_bounds b hden).2 (by omega)
    have := Nat.mul_le_mul_right (2 ^ 52) (Nat.succ_le_of_lt hlt)
    rw [Nat.succ_mul] at this
    omega
  · rw [heq]
    exact Nat.add_le_add_left (roundHalfEven_mono _ h) _

theorem nearest_le (num den : Nat) : nearest num den ≤ infiniteMagnitude := Nat.min_le_left _ _

theorem magnitude_round (negative : Bool) (num den : Nat) :
    (round negative num den).magnitude.val = nearest num den := by
  have := nearest_le num den
  exact Nat.mod_eq_of_lt (lt_of_le_of_lt this (by decide))

theorem units_round (negative : Bool) (num den : Nat) :
    (round negative num den).units = unitsOf (nearest num den) := by
  rw [units, magnitude_round]

theorem isFinite_iff {x : Binary64} : x.isFinite ↔ x.magnitude.val < infiniteMagnitude := by
  rw [isFinite, decide_eq_true_iff]

theorem isFinite_round_iff {negative : Bool} {num den : Nat} :
    (round negative num den).isFinite ↔ nearest num den < infiniteMagnitude := by
  rw [isFinite_iff, magnitude_round]

theorem nanOperand?_of_isFinite {x y : Binary64} (hx : x.isFinite) (hy : y.isFinite) :
    nanOperand? x y = none := by
  rw [isFinite_iff] at hx hy
  rw [nanOperand?, isNaN, isNaN, decide_eq_false (by omega), decide_eq_false (by omega)]
  rfl

theorem isInfinite_of_isFinite {x : Binary64} (h : x.isFinite) : x.isInfinite = false := by
  rw [isFinite_iff] at h
  rw [isInfinite, beq_eq_false_iff_ne]
  omega

/-- The product of finite numbers is rounded once. -/
theorem mul_eq_round {x y : Binary64} (hx : x.isFinite) (hy : y.isFinite) :
    x * y = round (x.negative != y.negative) (x.units * y.units) unitsPerOne := by
  show mul x y = _
  simp only [mul, nanOperand?_of_isFinite hx hy, isInfinite_of_isFinite hx,
    isInfinite_of_isFinite hy]
  rfl

/-- The quotient of finite numbers is rounded once, unless it is one by zero. -/
theorem div_eq_round {x y : Binary64} (hx : x.isFinite) (hy : y.isFinite)
    (hzero : y.isZero = false) :
    x / y = round (x.negative != y.negative) (x.units * unitsPerOne) y.units := by
  show div x y = _
  simp only [div, nanOperand?_of_isFinite hx hy, isInfinite_of_isFinite hx,
    isInfinite_of_isFinite hy, hzero]
  rfl

end Binary64

end SimilarItems
