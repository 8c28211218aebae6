import SimilarItems.Proofs.Binary64.Nearest

/-!
# Bounds of rounded numbers

Bounds by powers of two pass through rounding, and so through all operations as long as nothing
overflows. What is not finite stays so in sums and as a numerator.
-/

namespace SimilarItems

namespace Binary64

/-! ## Rounding and powers of two -/

variable {num den k : Nat}

theorem unitsOf_nearest_le_pow (hden : 0 < den) (h : num ≤ den * 2 ^ k) :
    unitsOf (nearest num den) ≤ 2 ^ k := by
  rw [← unitsOf_powerMagnitude k] at h ⊢
  exact unitsOf_mono (nearest_le_of_le hden h)

theorem pow_le_unitsOf_nearest (hden : 0 < den) (h : den * 2 ^ k ≤ num)
    (hfinite : nearest num den < infiniteMagnitude) : 2 ^ k ≤ unitsOf (nearest num den) := by
  rw [← unitsOf_powerMagnitude k] at h ⊢
  refine unitsOf_mono ?_
  have := le_nearest_of_le hden h
  omega

/-- A number that is small enough does not count when it is added to a power of two. -/
theorem unitsOf_nearest_le_of_small {v j : Nat} (h : v ≤ 2 ^ (j + 54) + 2 ^ j) :
    unitsOf (nearest v 1) ≤ 2 ^ (j + 54) := by
  have hspacing : powerMagnitude (j + 54) / 2 ^ 52 - 1 = j + 2 := by
    rw [powerMagnitude, if_neg (by omega), Nat.mul_div_cancel _ (by decide)]
    omega
  have hle : nearest v 1 ≤ powerMagnitude (j + 54) := by
    have hpow : 2 ^ (j + 2) = 4 * 2 ^ j := by ring
    have hpos : 0 < 2 ^ j := Nat.pow_pos (by decide)
    have hbelow : 2 * v < 1 * (unitsOf (powerMagnitude (j + 54)) +
        unitsOf (powerMagnitude (j + 54) + 1)) := by
      rw [unitsOf_succ, hspacing, unitsOf_powerMagnitude]
      omega
    exact nearest_le_of_midpoint Nat.one_pos hbelow.le fun htie => absurd htie hbelow.ne
  exact (unitsOf_mono hle).trans_eq (unitsOf_powerMagnitude _)

/-! ## What is not finite -/

variable {x y : Binary64}

theorem isFinite_iff_units {x : Binary64} : x.isFinite ↔ x.units < 2 ^ 2098 := by
  rw [isFinite_iff, units, ← unitsOf_infiniteMagnitude, unitsOf_lt_unitsOf]

theorem isFinite_of_units_le {k : Nat} (h : x.units ≤ 2 ^ k) (hk : k < 2098) : x.isFinite :=
  isFinite_iff_units.2 (h.trans_lt (Nat.pow_lt_pow_right (by decide) hk))

theorem isFinite_or (x : Binary64) : x.isFinite ∨ x.isInfinite ∨ x.isNaN := by
  rw [isFinite, isInfinite, isNaN, decide_eq_true_iff, decide_eq_true_iff, beq_iff_eq]
  omega

theorem isNaN_quiet (h : x.isNaN) : x.quiet.isNaN := by
  have hlarge := h
  rw [isNaN, decide_eq_true_iff] at hlarge
  have hlt := x.magnitude.isLt
  rw [quiet]
  split
  · exact h
  · -- The bit that is set fits in, since it was not set before.
    have hfits : x.magnitude.val + 2 ^ 51 < 2 ^ 63 := by omega
    rw [isNaN, decide_eq_true_iff]
    show infiniteMagnitude < (x.magnitude.val + 2 ^ 51) % 2 ^ 63
    rw [Nat.mod_eq_of_lt hfits]
    omega

theorem isNaN_of_isFinite (h : x.isFinite) : x.isNaN = false := by
  rw [isFinite_iff] at h
  rw [isNaN, decide_eq_false_iff_not]
  omega

theorem not_isFinite_of_isNaN (h : x.isNaN) : ¬ x.isFinite := by
  intro hfinite
  rw [isNaN_of_isFinite hfinite] at h
  cases h

theorem isNaN_of_nanOperand? {z : Binary64} (h : nanOperand? x y = some z) : z.isNaN := by
  rw [nanOperand?] at h
  split at h
  · rename_i hx
    cases h
    exact isNaN_quiet hx
  · split at h
    · rename_i hy
      cases h
      exact isNaN_quiet hy
    · cases h

theorem not_isFinite_of_nanOperand? {z : Binary64} (h : nanOperand? x y = some z) :
    ¬ z.isFinite := not_isFinite_of_isNaN (isNaN_of_nanOperand? h)

theorem nanOperand?_eq_none : nanOperand? x y = none ↔ x.isNaN = false ∧ y.isNaN = false := by
  rw [nanOperand?]
  cases x.isNaN <;> cases y.isNaN <;> simp

theorem isFinite_of_not (hinfinite : x.isInfinite = false) (hnan : x.isNaN = false) :
    x.isFinite := by
  rcases isFinite_or x with h | h | h
  · exact h
  · rw [h] at hinfinite
    cases hinfinite
  · rw [h] at hnan
    cases hnan

theorem isFinite_zero (negative : Bool) : (zero negative).isFinite := by
  revert negative
  decide

theorem not_isFinite_infinity (negative : Bool) : ¬ (infinity negative).isFinite := by
  revert negative
  decide

theorem not_isFinite_invalid : ¬ invalid.isFinite := by decide

theorem not_isFinite_of_isInfinite (h : x.isInfinite) : ¬ x.isFinite := by
  rw [isInfinite, beq_iff_eq] at h
  rw [isFinite_iff]
  omega

/-- A finite sum has finite terms. -/
theorem isFinite_of_add (h : (x + y).isFinite) : x.isFinite ∧ y.isFinite := by
  change (add x y).isFinite = true at h
  rw [add] at h
  split at h
  · exact absurd h (not_isFinite_of_nanOperand? ‹_›)
  · obtain ⟨hx, hy⟩ := nanOperand?_eq_none.1 ‹_›
    split at h
    · rename_i hinfinite
      split at h
      · exact absurd h not_isFinite_invalid
      · exact absurd h (not_isFinite_of_isInfinite hinfinite)
    · rename_i hxfinite
      split at h
      · rename_i hinfinite
        exact absurd h (not_isFinite_of_isInfinite hinfinite)
      · rename_i hyfinite
        exact ⟨isFinite_of_not (Bool.eq_false_iff.2 hxfinite) hx,
          isFinite_of_not (Bool.eq_false_iff.2 hyfinite) hy⟩

/-- A finite quotient has a finite numerator. -/
theorem isFinite_of_div (h : (x / y).isFinite) : x.isFinite := by
  change (div x y).isFinite = true at h
  rw [div] at h
  split at h
  · exact absurd h (not_isFinite_of_nanOperand? ‹_›)
  · obtain ⟨hx, -⟩ := nanOperand?_eq_none.1 ‹_›
    dsimp only at h
    split at h
    · split at h
      · exact absurd h not_isFinite_invalid
      · exact absurd h (not_isFinite_infinity _)
    · rename_i hinfinite
      exact isFinite_of_not (Bool.eq_false_iff.2 hinfinite) hx

/-! ## Finite operands -/

theorem add_of_isFinite (hx : x.isFinite) (hy : y.isFinite) : x + y =
    if x.signedUnits + y.signedUnits = 0 then zero (x.negative && y.negative)
    else round (x.signedUnits + y.signedUnits < 0) (x.signedUnits + y.signedUnits).natAbs 1 := by
  show add x y = _
  simp only [add, nanOperand?_of_isFinite hx hy, isInfinite_of_isFinite hx,
    isInfinite_of_isFinite hy]
  rfl

theorem units_add (hx : x.isFinite) (hy : y.isFinite) :
    (x + y).units = unitsOf (nearest (x.signedUnits + y.signedUnits).natAbs 1) := by
  rw [add_of_isFinite hx hy]
  split
  · rename_i hzero
    rw [hzero]
    cases x.negative && y.negative <;> decide
  · exact units_round _ _ _

theorem natAbs_signedUnits (x : Binary64) : x.signedUnits.natAbs = x.units := by
  rw [signedUnits]
  split <;> simp

/-- A sum of which one term is small enough stays below a power of two that bounds the other. -/
theorem units_add_le {j : Nat} (h : (x + y).isFinite) (hx : x.units ≤ 2 ^ (j + 54))
    (hy : y.units ≤ 2 ^ j) : (x + y).units ≤ 2 ^ (j + 54) := by
  obtain ⟨hxfinite, hyfinite⟩ := isFinite_of_add h
  rw [units_add hxfinite hyfinite]
  refine unitsOf_nearest_le_of_small ((Int.natAbs_add_le _ _).trans ?_)
  rw [natAbs_signedUnits, natAbs_signedUnits]
  exact Nat.add_le_add hx hy

theorem units_mul (hx : x.isFinite) (hy : y.isFinite) :
    (x * y).units = unitsOf (nearest (x.units * y.units) unitsPerOne) := by
  rw [mul_eq_round hx hy, units_round]

theorem unitsPerOne_mul_pow (k : Nat) : unitsPerOne * 2 ^ k = 2 ^ (k + 1074) := by
  rw [pow_add, Nat.mul_comm, unitsPerOne]

theorem units_mul_le {p q k : Nat} (hx : x.isFinite) (hy : y.isFinite) (hxp : x.units ≤ 2 ^ p)
    (hyq : y.units ≤ 2 ^ q) (hk : p + q = k + 1074) : (x * y).units ≤ 2 ^ k := by
  rw [units_mul hx hy]
  refine unitsOf_nearest_le_pow unitsPerOne_pos ((Nat.mul_le_mul hxp hyq).trans_eq ?_)
  rw [unitsPerOne_mul_pow, ← pow_add, hk]

/-! ## Numbers that are large enough -/

/-- A number, maybe infinite, that has no sign. -/
structure Nonnegative (x : Binary64) : Prop where
  sign : x.negative = false
  number : x.isNaN = false

/-- A number without a sign that is infinite or at least a power of two, in units. -/
structure AtLeast (k : Nat) (x : Binary64) : Prop extends Nonnegative x where
  le_units : x.isFinite → 2 ^ k ≤ x.units

theorem nonnegative_infinity : (infinity false).Nonnegative := ⟨rfl, by decide⟩

theorem nonnegative_round (num den : Nat) : (round false num den).Nonnegative := by
  refine ⟨rfl, ?_⟩
  have := nearest_le num den
  rw [isNaN, magnitude_round, decide_eq_false_iff_not]
  omega

theorem signedUnits_of_nonnegative (hx : x.Nonnegative) : x.signedUnits = x.units := by
  rw [signedUnits, hx.sign]
  rfl

theorem add_of_nonnegative (hx : x.Nonnegative) (hy : y.Nonnegative) :
    x + y = if x.isInfinite then x else if y.isInfinite then y else
      round false (x.units + y.units) 1 := by
  have hnan := nanOperand?_eq_none.2 ⟨hx.number, hy.number⟩
  show add x y = _
  simp only [add, hnan, hx.sign, hy.sign, signedUnits_of_nonnegative hx,
    signedUnits_of_nonnegative hy]
  cases x.isInfinite with
  | true => simp
  | false =>
    cases y.isInfinite with
    | true => rfl
    | false =>
      have hsum : ((x.units : Int) + y.units).natAbs = x.units + y.units := by omega
      have hsign : decide ((x.units : Int) + y.units < 0) = false := by
        rw [decide_eq_false_iff_not]
        omega
      by_cases hzero : x.units + y.units = 0
      · have hzero' : (x.units : Int) + y.units = 0 := by omega
        rw [hzero, if_pos hzero']
        rfl
      · have hzero' : ¬ (x.units : Int) + y.units = 0 := by omega
        rw [if_neg hzero', hsum, hsign]
        rfl

theorem Nonnegative.add (hx : x.Nonnegative) (hy : y.Nonnegative) : (x + y).Nonnegative := by
  rw [add_of_nonnegative hx hy]
  split
  · exact hx
  · split
    · exact hy
    · exact nonnegative_round _ _

/-- A sum of numbers without sign is at least what one of them is. -/
theorem AtLeast.add {k : Nat} (hx : x.Nonnegative) (hy : y.Nonnegative)
    (h : (x.isFinite → 2 ^ k ≤ x.units) ∨ (y.isFinite → 2 ^ k ≤ y.units)) :
    AtLeast k (x + y) := by
  refine ⟨hx.add hy, fun hfinite => ?_⟩
  obtain ⟨hxfinite, hyfinite⟩ := isFinite_of_add hfinite
  have hround : x + y = round false (x.units + y.units) 1 := by
    rw [add_of_nonnegative hx hy, isInfinite_of_isFinite hxfinite, isInfinite_of_isFinite hyfinite]
    rfl
  rw [hround, isFinite_round_iff] at hfinite
  rw [hround, units_round]
  refine pow_le_unitsOf_nearest (by decide) ?_ hfinite
  rcases h with h | h
  · have := h hxfinite
    omega
  · have := h hyfinite
    omega

theorem isZero_iff : x.isZero ↔ x.units = 0 := by
  rw [isZero, beq_iff_eq]
  constructor
  · intro h
    rw [units, h]
    decide
  · intro h
    by_contra hne
    exact absurd h (unitsOf_pos (Nat.pos_of_ne_zero hne)).ne'

theorem AtLeast.isZero {k : Nat} (hx : AtLeast k x) : x.isZero = false := by
  rw [Bool.eq_false_iff]
  intro hzero
  rw [isZero_iff] at hzero
  have hfinite : x.isFinite := isFinite_iff_units.2 (hzero ▸ Nat.pow_pos Nat.two_pos)
  have := hx.le_units hfinite
  have : 0 < 2 ^ k := Nat.pow_pos (by decide)
  omega

theorem AtLeast.mul {p q k : Nat} (hx : AtLeast p x) (hy : AtLeast q y) (hk : k + 1074 = p + q) :
    AtLeast k (x * y) := by
  have hnan := nanOperand?_eq_none.2 ⟨hx.number, hy.number⟩
  by_cases hinfinite : x.isInfinite || y.isInfinite
  · have hmul : x * y = infinity false := by
      show Binary64.mul x y = _
      simp only [Binary64.mul, hnan, hinfinite, hx.isZero, hy.isZero, hx.sign, hy.sign]
      rfl
    rw [hmul]
    exact ⟨nonnegative_infinity, fun h => absurd h (not_isFinite_infinity _)⟩
  · rw [Bool.not_eq_true, Bool.or_eq_false_iff] at hinfinite
    have hxfinite := isFinite_of_not hinfinite.1 hx.number
    have hyfinite := isFinite_of_not hinfinite.2 hy.number
    have hround : x * y = round false (x.units * y.units) unitsPerOne := by
      rw [mul_eq_round hxfinite hyfinite, hx.sign, hy.sign]
      rfl
    rw [hround]
    refine ⟨nonnegative_round _ _, fun hfinite => ?_⟩
    rw [isFinite_round_iff] at hfinite
    rw [units_round]
    refine pow_le_unitsOf_nearest unitsPerOne_pos ?_ hfinite
    calc unitsPerOne * 2 ^ k = 2 ^ p * 2 ^ q := by
          rw [unitsPerOne_mul_pow, ← pow_add, hk]
      _ ≤ x.units * y.units := Nat.mul_le_mul (hx.le_units hxfinite) (hy.le_units hyfinite)

/-- The square of a number that reaches a power of two. -/
theorem atLeast_mul_self {p k : Nat} (hx : x.isFinite) (hp : 2 ^ p ≤ x.units)
    (hk : k + 1074 = 2 * p) : AtLeast k (x * x) := by
  have hround : x * x = round false (x.units * x.units) unitsPerOne := by
    rw [mul_eq_round hx hx, bne_self_eq_false]
  rw [hround]
  refine ⟨nonnegative_round _ _, fun hfinite => ?_⟩
  rw [isFinite_round_iff] at hfinite
  rw [units_round]
  refine pow_le_unitsOf_nearest unitsPerOne_pos ?_ hfinite
  calc unitsPerOne * 2 ^ k = 2 ^ p * 2 ^ p := by
        rw [unitsPerOne_mul_pow, ← pow_add, hk, Nat.two_mul]
    _ ≤ x.units * x.units := Nat.mul_le_mul hp hp

theorem nonnegative_mul_self (hx : x.isFinite) : (x * x).Nonnegative := by
  rw [mul_eq_round hx hx, bne_self_eq_false]
  exact nonnegative_round _ _

end Binary64

/-! ## Roots -/

theorem lt_succ_floorRoot {k n : Nat} (h : n < 4 ^ k) :
    n < (floorRoot k n + 1) * (floorRoot k n + 1) := by
  induction k generalizing n with
  | zero => simpa [floorRoot] using h
  | succ k ih =>
    have hquarter : n / 4 < 4 ^ k := by
      rw [Nat.div_lt_iff_lt_mul (by decide), ← pow_succ]
      exact h
    have hroot := ih hquarter
    simp only [floorRoot]
    generalize floorRoot k (n / 4) = r at hroot ⊢
    split
    · have hexpand : (2 * r + 1 + 1) * (2 * r + 1 + 1) = 4 * ((r + 1) * (r + 1)) := by ring
      omega
    · omega

namespace Binary64

variable {x y : Binary64}

/-- The digits that are rooted are enough for every power of two that the root reaches. -/
theorem pow_le_rootMagnitude {u p : Nat} (h : 2 ^ (2 * p) ≤ u * unitsPerOne)
    (hfinite : rootMagnitude u < infiniteMagnitude) : 2 ^ p ≤ unitsOf (rootMagnitude u) := by
  unfold rootMagnitude at hfinite ⊢
  generalize u * unitsPerOne = square at h hfinite ⊢
  dsimp only at hfinite ⊢
  have hsquare : 2 ^ (2 * (Nat.log2 square / 2)) ≤ square := by
    have hne : square ≠ 0 := by
      have : 0 < 2 ^ (2 * p) := Nat.pow_pos (by decide)
      omega
    exact (Nat.pow_le_pow_right (by decide) (by omega)).trans (Nat.log2_self_le hne)
  have hp : p ≤ Nat.log2 square / 2 := by
    have hlog := log2_mono h
    rw [Nat.log2_two_pow] at hlog
    omega
  have hdropped : (Nat.log2 square - 108) / 2 ≤ Nat.log2 square / 2 := by omega
  generalize (Nat.log2 square - 108) / 2 = dropped at hdropped hfinite ⊢
  generalize hleading : square / 4 ^ dropped = leading at hfinite ⊢
  have hreach : 2 ^ (Nat.log2 square / 2 - dropped) ≤
      floorRoot (Nat.log2 leading / 2 + 1) leading := by
    have hlt : leading < 4 ^ (Nat.log2 leading / 2 + 1) := by
      have hfour : (4 : Nat) = 2 ^ 2 := rfl
      rw [hfour, ← pow_mul]
      exact Nat.lt_log2_self.trans_le (Nat.pow_le_pow_right (by decide) (by omega))
    have hroot := lt_succ_floorRoot hlt
    have hle : 2 ^ (Nat.log2 square / 2 - dropped) * 2 ^ (Nat.log2 square / 2 - dropped) ≤
        leading := by
      rw [← hleading, Nat.le_div_iff_mul_le (Nat.pow_pos (by decide))]
      have hfour : (4 : Nat) = 2 ^ 2 := rfl
      rw [hfour, ← pow_mul, ← pow_add, ← pow_add]
      refine le_trans ?_ hsquare
      exact Nat.pow_le_pow_right (by decide) (by omega)
    exact Nat.le_of_lt_succ (Nat.mul_self_lt_mul_self_iff.1 (hle.trans_lt hroot))
  refine pow_le_unitsOf_nearest (by decide) ?_ hfinite
  generalize floorRoot (Nat.log2 leading / 2 + 1) leading = root at hreach ⊢
  calc 2 * 2 ^ p ≤ 2 * 2 ^ (Nat.log2 square / 2) :=
        Nat.mul_le_mul_left 2 (Nat.pow_le_pow_right (by decide) hp)
    _ = 2 * (2 ^ (Nat.log2 square / 2 - dropped) * 2 ^ dropped) := by
        rw [← pow_add, Nat.sub_add_cancel hdropped]
    _ ≤ 2 * (root * 2 ^ dropped) := Nat.mul_le_mul_left 2 (Nat.mul_le_mul_right _ hreach)
    _ = 2 * root * 2 ^ dropped := (Nat.mul_assoc _ _ _).symm
    _ ≤ _ := Nat.mul_le_mul_right _ (Nat.le_add_right _ _)

theorem AtLeast.sqrt {k p : Nat} (hx : AtLeast k x) (hk : 2 * p ≤ k + 1074) :
    AtLeast p x.sqrt := by
  rw [Binary64.sqrt, hx.number, hx.isZero, hx.sign]
  cases hinfinite : x.isInfinite with
  | true =>
    refine ⟨⟨hx.sign, hx.number⟩, fun h => absurd h ?_⟩
    exact not_isFinite_of_isInfinite hinfinite
  | false =>
    have hle : rootMagnitude x.units ≤ infiniteMagnitude := nearest_le _ _
    have hmagnitude : (ofMagnitude false (rootMagnitude x.units)).magnitude.val =
        rootMagnitude x.units := Nat.mod_eq_of_lt (lt_of_le_of_lt hle (by decide))
    refine ⟨⟨rfl, ?_⟩, fun hfinite => ?_⟩
    · show isNaN (ofMagnitude false _) = false
      rw [isNaN, hmagnitude, decide_eq_false_iff_not]
      omega
    · change (ofMagnitude false (rootMagnitude x.units)).isFinite = true at hfinite
      rw [isFinite_iff, hmagnitude] at hfinite
      show 2 ^ p ≤ unitsOf (ofMagnitude false (rootMagnitude x.units)).magnitude
      rw [hmagnitude]
      refine pow_le_rootMagnitude ?_ hfinite
      calc 2 ^ (2 * p) ≤ 2 ^ (k + 1074) := Nat.pow_le_pow_right (by decide) hk
        _ = 2 ^ k * unitsPerOne := by rw [Nat.mul_comm, unitsPerOne_mul_pow]
        _ ≤ x.units * unitsPerOne :=
          Nat.mul_le_mul_right _ (hx.le_units (isFinite_of_not hinfinite hx.number))

/-! ## Quotients -/

/-- A quotient is bounded if the denominator is not too small beside the numerator. -/
theorem units_div_le {m k l : Nat} (hx : x.isFinite) (hle : x.units ≤ 2 ^ m) (hy : AtLeast k y)
    (hl : m + 1074 = k + l) : (x / y).units ≤ 2 ^ l := by
  by_cases hyfinite : y.isFinite
  · have hyunits := hy.le_units hyfinite
    rw [div_eq_round hx hyfinite hy.isZero, units_round]
    refine unitsOf_nearest_le_pow ((Nat.pow_pos Nat.two_pos).trans_le hyunits) ?_
    calc x.units * unitsPerOne ≤ 2 ^ m * unitsPerOne := Nat.mul_le_mul_right _ hle
      _ = 2 ^ k * 2 ^ l := by rw [Nat.mul_comm, unitsPerOne_mul_pow, hl, pow_add]
      _ ≤ y.units * 2 ^ l := Nat.mul_le_mul_right _ hyunits
  · have hinfinite : y.isInfinite = true := by
      by_contra hne
      exact hyfinite (isFinite_of_not (Bool.eq_false_iff.2 hne) hy.number)
    have hnan := nanOperand?_eq_none.2 ⟨isNaN_of_isFinite hx, hy.number⟩
    show (div x y).units ≤ 2 ^ l
    simp only [div, hnan, isInfinite_of_isFinite hx, hinfinite]
    exact Nat.zero_le _

end Binary64

end SimilarItems
