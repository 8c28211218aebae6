import SimilarItems.Proofs.Binary64.Rounding

/-!
# Rounding to the nearest magnitude

What lies between the midpoints to the neighbours of a magnitude is rounded to that magnitude; of the
midpoints themselves, those of an even magnitude are. So a number that is worth a magnitude is not
changed, and the error of rounding is small beside the number.
-/

namespace SimilarItems

/-! ## Rounding to the nearest integer -/

/-- What does not exceed the midpoint after an even integer is not rounded above it. -/
theorem roundHalfEven_le_of_midpoint {num den k : Nat} (h : 2 * num ≤ den * (2 * k + 1))
    (htie : 2 * num = den * (2 * k + 1) → k % 2 = 0) : roundHalfEven num den ≤ k := by
  rcases Nat.eq_zero_or_pos den with rfl | hden
  · have hzero : num = 0 := by omega
    rw [hzero]
    exact Nat.zero_le k
  have hq := Nat.div_add_mod num den
  have hmul : den * (2 * k + 1) = 2 * (den * k) + den := by ring
  have hlt : num / den < k + 1 := by
    rw [Nat.div_lt_iff_lt_mul hden, Nat.add_mul, Nat.one_mul, Nat.mul_comm k]
    omega
  rcases Nat.lt_or_eq_of_le (Nat.le_of_lt_succ hlt) with hlt | heq
  · exact (roundHalfEven_le num den).trans hlt
  · rw [heq] at hq
    simp only [roundHalfEven, heq]
    split_ifs with hbelow habove
    · exact le_rfl
    · omega
    · have := htie (by omega)
      omega

/-- What reaches the midpoint after an odd integer is rounded above it. -/
theorem lt_roundHalfEven_of_midpoint {num den k : Nat} (hden : 0 < den)
    (h : den * (2 * k + 1) ≤ 2 * num) (htie : 2 * num = den * (2 * k + 1) → k % 2 = 1) :
    k < roundHalfEven num den := by
  have hq := Nat.div_add_mod num den
  have hmul : den * (2 * k + 1) = 2 * (den * k) + den := by ring
  have hle : k ≤ num / den := by
    rw [Nat.le_div_iff_mul_le hden, Nat.mul_comm]
    omega
  rcases Nat.lt_or_eq_of_le hle with hlt | heq
  · exact hlt.trans_le (le_roundHalfEven num den)
  · rw [← heq] at hq
    simp only [roundHalfEven, ← heq]
    split_ifs with hbelow habove
    · omega
    · omega
    · have := htie (by omega)
      omega

/-- Rounding to an integer changes a quotient by at most a half. -/
theorem roundHalfEven_error (num : Nat) {den : Nat} (hden : 0 < den) :
    2 * (den * roundHalfEven num den) ≤ 2 * num + den ∧
      2 * num ≤ 2 * (den * roundHalfEven num den) + den := by
  have hq := Nat.div_add_mod num den
  have hr := Nat.mod_lt num hden
  unfold roundHalfEven
  generalize num / den = q at hq ⊢
  generalize num % den = r at hq hr ⊢
  simp only
  rcases Nat.mod_two_eq_zero_or_one q with heven | hodd
  · split_ifs with hbelow habove
    · omega
    · rw [Nat.mul_add, Nat.mul_one]
      omega
    · rw [heven, Nat.add_zero]
      omega
  · split_ifs with hbelow habove
    · omega
    · rw [Nat.mul_add, Nat.mul_one]
      omega
    · rw [hodd, Nat.mul_add, Nat.mul_one]
      omega

namespace Binary64

/-! ## Magnitudes and their spacing -/

/-- The exponent of the distance from a magnitude to the next one. -/
def spacing (m : Nat) : Nat := m / 2 ^ 52 - 1

/-- A magnitude counts on from the first one of its spacing. -/
theorem exists_significand (m : Nat) : ∃ s < 2 ^ 53, m = spacing m * 2 ^ 52 + s ∧
    unitsOf m = s * 2 ^ spacing m ∧ (0 < spacing m → 2 ^ 52 ≤ s) := by
  have hm := Nat.div_add_mod m (2 ^ 52)
  have hmod : m % 2 ^ 52 < 2 ^ 52 := Nat.mod_lt _ (by decide)
  unfold unitsOf spacing
  by_cases hsmall : m < 2 ^ 52
  · rw [if_pos hsmall, Nat.div_eq_of_lt hsmall]
    exact ⟨m, by omega, by omega, by omega, by omega⟩
  · have hpos : 0 < m / 2 ^ 52 := Nat.div_pos (by omega) (by decide)
    rw [if_neg hsmall]
    exact ⟨2 ^ 52 + m % 2 ^ 52, by omega, by omega, rfl, by omega⟩

theorem unitsOf_lt_succ (m : Nat) : unitsOf m < unitsOf (m + 1) := by
  rw [unitsOf_succ]
  exact Nat.lt_add_of_pos_right (Nat.pow_pos (by decide))

/-- The units of two magnitudes are in the order of the magnitudes. -/
theorem unitsOf_lt_unitsOf {m n : Nat} : unitsOf m < unitsOf n ↔ m < n := by
  constructor
  · intro h
    by_contra hnm
    exact absurd h (Nat.not_lt.2 (unitsOf_mono (Nat.not_lt.1 hnm)))
  · intro h
    exact (unitsOf_lt_succ m).trans_le (unitsOf_mono h)

/-- Every power of two is a magnitude. -/
def powerMagnitude (k : Nat) : Nat := if k < 52 then 2 ^ k else (k - 51) * 2 ^ 52

theorem unitsOf_powerMagnitude (k : Nat) : unitsOf (powerMagnitude k) = 2 ^ k := by
  unfold powerMagnitude unitsOf
  by_cases hk : k < 52
  · rw [if_pos hk, if_pos (Nat.pow_lt_pow_right (by decide) hk)]
  · rw [if_neg hk, if_neg (by omega), Nat.mul_mod_left, Nat.mul_div_cancel _ (by decide), Nat.add_zero,
      ← pow_add]
    congr 1
    omega

theorem unitsOf_infiniteMagnitude : unitsOf infiniteMagnitude = 2 ^ 2098 :=
  unitsOf_powerMagnitude 2098

/-! ## Rounding at a midpoint -/

variable {num den m k : Nat}

/-- What does not exceed the midpoint after an even magnitude is not rounded above it. -/
theorem nearest_le_of_midpoint (hden : 0 < den)
    (h : 2 * num ≤ den * (unitsOf m + unitsOf (m + 1)))
    (htie : 2 * num = den * (unitsOf m + unitsOf (m + 1)) → m % 2 = 0) : nearest num den ≤ m := by
  obtain ⟨s, -, hm, hunits, hs'⟩ := exists_significand m
  have hnext : unitsOf (m + 1) = unitsOf m + 2 ^ spacing m := unitsOf_succ m
  have hcarry := (nearest_bounds num hden).1
  refine (Nat.min_le_right _ _).trans ?_
  generalize he : Nat.log2 (num / den) - 52 = e at hcarry ⊢
  rcases Nat.lt_trichotomy e (spacing m) with hlt | rfl | hgt
  · have := Nat.mul_le_mul_right (2 ^ 52) (Nat.succ_le_of_lt hlt)
    have := hs' (by omega)
    omega
  · have hmid : den * (unitsOf m + unitsOf (m + 1)) = den * 2 ^ spacing m * (2 * s + 1) := by
      rw [hnext, hunits]
      ring
    rw [hmid] at h htie
    have hround := roundHalfEven_le_of_midpoint h fun heq => by
      have := htie heq
      omega
    omega
  · -- Then the quotient would reach the next magnitude.
    exfalso
    have hne : num / den ≠ 0 := by
      intro hzero
      rw [hzero] at he
      exact absurd he (by simp; omega)
    have hlog : 2 ^ (e + 52) ≤ num / den := by
      have := Nat.log2_self_le hne
      rwa [show Nat.log2 (num / den) = e + 52 by omega] at this
    have hreach : unitsOf (m + 1) ≤ num / den := by
      refine (unitsOf_succ_le m).trans (le_trans ?_ hlog)
      rw [← pow_add]
      refine Nat.pow_le_pow_right (by decide) ?_
      unfold spacing at hgt
      omega
    have hnum := (Nat.le_div_iff_mul_le hden).1 hreach
    have hlt := Nat.mul_lt_mul_of_pos_left (unitsOf_lt_succ m) hden
    rw [Nat.mul_add] at h
    rw [Nat.mul_comm] at hnum
    omega

/-- What reaches the midpoint after an odd magnitude is rounded above it. -/
theorem lt_nearest_of_midpoint (hden : 0 < den) (hm : m < infiniteMagnitude)
    (h : den * (unitsOf m + unitsOf (m + 1)) ≤ 2 * num)
    (htie : 2 * num = den * (unitsOf m + unitsOf (m + 1)) → m % 2 = 1) : m < nearest num den := by
  obtain ⟨s, hs, hm', hunits, hs'⟩ := exists_significand m
  have hnext : unitsOf (m + 1) = unitsOf m + 2 ^ spacing m := unitsOf_succ m
  have hlow := (nearest_bounds num hden).2
  refine lt_min hm ?_
  have hreach : unitsOf m ≤ num / den := by
    have hle := Nat.mul_le_mul_left den (unitsOf_lt_succ m).le
    rw [Nat.le_div_iff_mul_le hden, Nat.mul_comm]
    rw [Nat.mul_add] at h
    omega
  generalize he : Nat.log2 (num / den) - 52 = e at hlow ⊢
  rcases Nat.lt_trichotomy e (spacing m) with hlt | rfl | hgt
  · -- Then the quotient would be below all magnitudes of that spacing.
    exfalso
    have hs' := hs' (by omega)
    have hpow : 2 ^ (spacing m + 52) ≤ num / den := by
      refine le_trans ?_ hreach
      rw [hunits, pow_add, Nat.mul_comm]
      exact Nat.mul_le_mul_right _ hs'
    have hlog := log2_mono hpow
    rw [Nat.log2_two_pow] at hlog
    omega
  · have hmid : den * (unitsOf m + unitsOf (m + 1)) = den * 2 ^ spacing m * (2 * s + 1) := by
      rw [hnext, hunits]
      ring
    rw [hmid] at h htie
    have hpos : 0 < den * 2 ^ spacing m := Nat.mul_pos hden (Nat.pow_pos (by decide))
    have hround := lt_roundHalfEven_of_midpoint hpos h fun heq => by
      have := htie heq
      omega
    omega
  · have := hlow (by omega)
    have := Nat.mul_le_mul_right (2 ^ 52) (Nat.succ_le_of_lt hgt)
    omega

theorem nearest_le_of_le (hden : 0 < den) (h : num ≤ den * unitsOf m) : nearest num den ≤ m := by
  have hlt := Nat.mul_lt_mul_of_pos_left (unitsOf_lt_succ m) hden
  refine nearest_le_of_midpoint hden ?_ ?_
  · rw [Nat.mul_add]
    omega
  · intro heq
    rw [Nat.mul_add] at heq
    omega

theorem le_nearest_of_le (hden : 0 < den) (h : den * unitsOf m ≤ num) :
    min infiniteMagnitude m ≤ nearest num den := by
  cases hk : min infiniteMagnitude m with
  | zero => exact Nat.zero_le _
  | succ k =>
    have hkm : k + 1 ≤ m := hk ▸ Nat.min_le_right _ _
    have hkinf : k + 1 ≤ infiniteMagnitude := hk ▸ Nat.min_le_left _ _
    have hle := Nat.mul_le_mul_left den (unitsOf_mono hkm)
    have hlt := Nat.mul_lt_mul_of_pos_left (unitsOf_lt_succ k) hden
    refine lt_nearest_of_midpoint hden hkinf ?_ ?_
    · rw [Nat.mul_add]
      omega
    · intro heq
      rw [Nat.mul_add] at heq
      omega

/-- A whole number of units that a magnitude is worth is rounded to that magnitude. -/
theorem nearest_mul_unitsOf (hden : 0 < den) (hm : m ≤ infiniteMagnitude) :
    nearest (den * unitsOf m) den = m := by
  have hle := le_nearest_of_le hden (le_refl (den * unitsOf m))
  rw [Nat.min_eq_right hm] at hle
  exact (nearest_le_of_le hden le_rfl).antisymm hle

/-! ## Midpoints to the neighbours -/

/-- The midpoints to the neighbours of a magnitude enclose a number of `num / den` units. They belong
to the magnitude if it is even. -/
structure Encloses (num den m : Nat) : Prop where
  below : den * (unitsOf (m - 1) + unitsOf m) ≤ 2 * num
  above : 2 * num ≤ den * (unitsOf m + unitsOf (m + 1))
  below_of_odd : m % 2 = 1 → den * (unitsOf (m - 1) + unitsOf m) < 2 * num
  above_of_odd : m % 2 = 1 → 2 * num < den * (unitsOf m + unitsOf (m + 1))

/-- What the midpoints enclose is rounded to the magnitude between them. -/
theorem Encloses.nearest_eq (h : Encloses num den m) (hden : 0 < den)
    (hm : m < infiniteMagnitude) : nearest num den = m := by
  apply Nat.le_antisymm
  · refine nearest_le_of_midpoint hden h.above ?_
    intro htie
    by_contra hodd
    have hlt := h.above_of_odd (by omega)
    omega
  · cases m with
    | zero => exact Nat.zero_le _
    | succ m =>
      refine lt_nearest_of_midpoint hden (Nat.lt_of_succ_lt hm) h.below ?_
      intro htie
      by_contra heven
      have hlt : den * (unitsOf m + unitsOf (m + 1)) < 2 * num := h.below_of_odd (by omega)
      omega

/-- Whether a number is enclosed does not depend on how it is written as a quotient. -/
theorem Encloses.congr {num' den' : Nat} (h : Encloses num den m) (hden : 0 < den)
    (hden' : 0 < den') (heq : num * den' = num' * den) : Encloses num' den' m := by
  have hmul (u : Nat) : den' * (den * u) = den * (den' * u) := Nat.mul_left_comm _ _ _
  have hnum : den' * (2 * num) = den * (2 * num') := by
    calc den' * (2 * num) = 2 * (num * den') := by ring
      _ = 2 * (num' * den) := by rw [heq]
      _ = den * (2 * num') := by ring
  constructor
  · have hle := Nat.mul_le_mul_left den' h.below
    rw [hmul, hnum] at hle
    exact Nat.le_of_mul_le_mul_left hle hden
  · have hle := Nat.mul_le_mul_left den' h.above
    rw [hmul, hnum] at hle
    exact Nat.le_of_mul_le_mul_left hle hden
  · intro hodd
    have hlt := Nat.mul_lt_mul_of_pos_left (h.below_of_odd hodd) hden'
    rw [hmul, hnum] at hlt
    exact Nat.lt_of_mul_lt_mul_left hlt
  · intro hodd
    have hlt := Nat.mul_lt_mul_of_pos_left (h.above_of_odd hodd) hden'
    rw [hmul, hnum] at hlt
    exact Nat.lt_of_mul_lt_mul_left hlt

/-! ## Exact values -/

theorem unitsOf_add_mul {e r : Nat} (hr : r ≤ 2 ^ 53) (he : 0 < e → 2 ^ 52 ≤ r) :
    unitsOf (e * 2 ^ 52 + r) = r * 2 ^ e := by
  unfold unitsOf
  by_cases hsmall : e * 2 ^ 52 + r < 2 ^ 52
  · have hzero : e = 0 := by
      by_contra hne
      have := he (Nat.pos_of_ne_zero hne)
      omega
    rw [if_pos hsmall, hzero]
    omega
  · have hr' : 2 ^ 52 ≤ r := by
      rcases Nat.eq_zero_or_pos e with rfl | hpos
      · omega
      · exact he hpos
    rw [if_neg hsmall]
    rcases Nat.lt_or_eq_of_le hr with hlt | rfl
    · have hdiv : (e * 2 ^ 52 + r) / 2 ^ 52 = e + 1 := by omega
      have hmod : 2 ^ 52 + (e * 2 ^ 52 + r) % 2 ^ 52 = r := by omega
      rw [hdiv, hmod, Nat.add_sub_cancel]
    · have hdiv : (e * 2 ^ 52 + 2 ^ 53) / 2 ^ 52 = e + 2 := by omega
      have hmod : 2 ^ 52 + (e * 2 ^ 52 + 2 ^ 53) % 2 ^ 52 = 2 ^ 52 := by omega
      rw [hdiv, hmod]
      show 2 ^ 52 * 2 ^ (e + 1) = 2 ^ 53 * 2 ^ e
      ring

/-- Every number of at most 53 binary digits, and every double of one, is worth a magnitude. -/
theorem exists_unitsOf_eq {s : Nat} (hs : s ≤ 2 ^ 53) (k : Nat) : ∃ m, unitsOf m = s * 2 ^ k := by
  induction k generalizing s with
  | zero => exact ⟨0 * 2 ^ 52 + s, unitsOf_add_mul hs (fun h => absurd h (Nat.lt_irrefl 0))⟩
  | succ k ih =>
    by_cases hsmall : s < 2 ^ 52
    · obtain ⟨m, hm⟩ := ih (s := 2 * s) (by omega)
      refine ⟨m, ?_⟩
      rw [hm]
      ring
    · exact ⟨(k + 1) * 2 ^ 52 + s, unitsOf_add_mul hs fun _ => Nat.not_lt.1 hsmall⟩

/-- A number of at most 53 binary digits with zeros after them is not changed by rounding. -/
theorem unitsOf_nearest_of_exact {s : Nat} (hden : 0 < den) (hs : s ≤ 2 ^ 53) (hk : k ≤ 2045) :
    unitsOf (nearest (den * (s * 2 ^ k)) den) = s * 2 ^ k := by
  obtain ⟨m, hm⟩ := exists_unitsOf_eq hs k
  have hle : m ≤ infiniteMagnitude := by
    by_contra hlarge
    have hlt := unitsOf_lt_unitsOf.2 (Nat.not_le.1 hlarge)
    rw [unitsOf_infiniteMagnitude, hm] at hlt
    have hbound : s * 2 ^ k ≤ 2 ^ 2098 := by
      calc s * 2 ^ k ≤ 2 ^ 53 * 2 ^ 2045 := Nat.mul_le_mul hs (Nat.pow_le_pow_right (by decide) hk)
        _ = 2 ^ 2098 := by rw [← pow_add]
    omega
  rw [← hm, nearest_mul_unitsOf hden hle]

/-! ## The error of rounding -/

/-- The number `b` differs from `a` by at most a `2 ^ 51`-th of `a`. -/
structure Near (a b : Nat) : Prop where
  below : (2 ^ 51 - 1) * a ≤ 2 ^ 51 * b
  above : 2 ^ 51 * b ≤ (2 ^ 51 + 1) * a

/-- From `2 ^ 50` units on, rounding changes a number little. -/
theorem near_nearest (hden : 0 < den) (h : den * 2 ^ 50 ≤ num)
    (hfinite : nearest num den < infiniteMagnitude) :
    Near num (den * unitsOf (nearest num den)) := by
  obtain ⟨hcarry, hlow⟩ := nearest_bounds num hden
  -- The spacing is small beside the number.
  have hspacing : den * 2 ^ (Nat.log2 (num / den) - 52) * 2 ^ 50 ≤ num := by
    by_cases hlog : Nat.log2 (num / den) ≤ 52
    · rw [Nat.sub_eq_zero_of_le hlog, pow_zero, Nat.mul_one]
      exact h
    · have hne : num / den ≠ 0 := by
        intro hzero
        rw [hzero] at hlog
        exact hlog (by decide)
      have hpow : 2 ^ (Nat.log2 (num / den) - 52) * 2 ^ 50 ≤ num / den := by
        refine le_trans ?_ (Nat.log2_self_le hne)
        rw [← pow_add]
        exact Nat.pow_le_pow_right (by decide) (by omega)
      rw [Nat.mul_assoc, Nat.mul_comm]
      exact (Nat.le_div_iff_mul_le hden).1 hpow
  have hnearest : nearest num den = (Nat.log2 (num / den) - 52) * 2 ^ 52 +
      roundHalfEven num (den * 2 ^ (Nat.log2 (num / den) - 52)) := by
    unfold nearest at hfinite ⊢
    have hlt := (min_lt_iff.1 hfinite).resolve_left (lt_irrefl _)
    exact Nat.min_eq_right hlt.le
  have herror := roundHalfEven_error num
    (Nat.mul_pos hden (Nat.pow_pos (n := Nat.log2 (num / den) - 52) Nat.two_pos))
  rw [hnearest, unitsOf_add_mul hcarry fun hpos => hlow (by omega)]
  generalize roundHalfEven num (den * 2 ^ (Nat.log2 (num / den) - 52)) = r at herror ⊢
  generalize 2 ^ (Nat.log2 (num / den) - 52) = spacing at hspacing herror ⊢
  have hswap : den * (r * spacing) = den * spacing * r := by ring
  rw [hswap]
  generalize den * spacing = gap at hspacing herror ⊢
  generalize gap * r = rounded at herror ⊢
  constructor <;> omega

end Binary64

end SimilarItems
