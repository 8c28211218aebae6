import SimilarItems.Proofs.Json.Real

/-!
# How numbers are restored

A finite number that is written and read again stays finite, keeps its sign, and is zero only if it
was. Where its digits and the power of ten that scales them both are exact, so is what is read;
elsewhere the roundings on the way can miss the number.
-/

namespace SimilarItems.Json.Number

/-! ## Rounded natural numbers -/

theorem unitsPerOne_le_roundedUnits {n : Nat} (hn : 0 < n) (hle : n ≤ 10 ^ largestPower) :
    Binary64.unitsPerOne ≤ roundedUnits n := by
  have hpow : Binary64.unitsPerOne = 2 ^ (0 + 1074) := by
    rw [← Binary64.unitsPerOne_mul_pow, pow_zero, Nat.mul_one]
  have hlarge : 1 * 2 ^ (0 + 1074) ≤ n * Binary64.unitsPerOne := by
    rw [← hpow]
    exact Nat.mul_le_mul_right _ hn
  rw [hpow]
  exact Binary64.pow_le_unitsOf_nearest Nat.one_pos hlarge (nearest_lt_of_le hle)

theorem le_pow_largestPower {n : Nat} (h : n ≤ 10 ^ 17) : n ≤ 10 ^ largestPower :=
  h.trans (Nat.pow_le_pow_right (by decide) (by decide))

theorem unitsPerOne_le_roundedUnits_pow {k : Nat} (hk : k ≤ largestPower) :
    Binary64.unitsPerOne ≤ roundedUnits (10 ^ k) :=
  unitsPerOne_le_roundedUnits (Nat.pow_pos (by decide)) (Nat.pow_le_pow_right (by decide) hk)

theorem roundedUnits_pow_pos {k : Nat} (hk : k ≤ largestPower) : 0 < roundedUnits (10 ^ k) :=
  Binary64.unitsPerOne_pos.trans_le (unitsPerOne_le_roundedUnits_pow hk)

theorem near_roundedUnits {n : Nat} (hn : 0 < n) (hle : n ≤ 10 ^ largestPower) :
    Binary64.Near (n * Binary64.unitsPerOne) (roundedUnits n) := by
  have hlarge : 1 * 2 ^ 50 ≤ n * Binary64.unitsPerOne :=
    (by decide +kernel : 1 * 2 ^ 50 ≤ Binary64.unitsPerOne).trans (Nat.le_mul_of_pos_left _ hn)
  have hnear := Binary64.near_nearest Nat.one_pos hlarge (nearest_lt_of_le hle)
  rwa [Nat.one_mul] at hnear

theorem near_roundedUnits_pow {k : Nat} (hk : k ≤ largestPower) :
    Binary64.Near (10 ^ k * Binary64.unitsPerOne) (roundedUnits (10 ^ k)) :=
  near_roundedUnits (Nat.pow_pos (by decide)) (Nat.pow_le_pow_right (by decide) hk)

/-- Numbers of at most 53 binary digits, with zeros after them, are exact. -/
theorem roundedUnits_of_exact {s k : Nat} (hs : s ≤ 2 ^ 53) (hk : k ≤ 971) :
    roundedUnits (s * 2 ^ k) = s * 2 ^ k * Binary64.unitsPerOne := by
  have hunits : s * 2 ^ k * Binary64.unitsPerOne = s * 2 ^ (k + 1074) := by
    rw [← Binary64.unitsPerOne_mul_pow, Nat.mul_assoc, Nat.mul_comm (2 ^ k)]
  have hexact := Binary64.unitsOf_nearest_of_exact (k := k + 1074) Nat.one_pos hs (by omega)
  rw [← hunits, Nat.one_mul] at hexact
  exact hexact

/-- The powers of ten up to the twenty-second are exact. -/
theorem roundedUnits_pow {k : Nat} (hk : k ≤ 22) :
    roundedUnits (10 ^ k) = 10 ^ k * Binary64.unitsPerOne := by
  have hten : 10 ^ k = 5 ^ k * 2 ^ k := Nat.mul_pow 5 2 k
  have hfive : 5 ^ k ≤ 2 ^ 53 := (Nat.pow_le_pow_right (by decide) hk).trans (by decide)
  rw [hten, roundedUnits_of_exact hfive (by omega)]

/-! ## Scaling down -/

/-- A number without a sign that is not zero. -/
structure Positive (x : Binary64) : Prop where
  sign : x.negative = false
  nonzero : x.isZero = false

/-- What reaches one unit is not rounded to zero. -/
theorem positive_round {num den : Nat} (hden : 0 < den) (h : den ≤ num) :
    Positive (.round false num den) := by
  have hone : den * Binary64.unitsOf 1 ≤ num := by
    rwa [show Binary64.unitsOf 1 = 1 from rfl, Nat.mul_one]
  have hle := Binary64.le_nearest_of_le hden hone
  have hmin : min Binary64.infiniteMagnitude 1 = 1 := by decide
  refine ⟨rfl, ?_⟩
  rw [Binary64.isZero, Binary64.magnitude_round, beq_eq_false_iff_ne]
  omega

variable {s k : Nat}

theorem isZero_powerOfTen (k : Nat) : (powerOfTen k).isZero = false :=
  (atLeast_powerOfTen k).isZero

theorem units_powerOfTen (k : Nat) : (powerOfTen k).units = roundedUnits (10 ^ k) :=
  Binary64.units_round _ _ _

/-- A finite number without a sign over a finite power of ten. -/
theorem div_powerOfTen {x : Binary64} (hx : x.isFinite) (hsign : x.negative = false)
    (hk : k ≤ largestPower) : x / powerOfTen k =
      .round false (x.units * Binary64.unitsPerOne) (roundedUnits (10 ^ k)) := by
  rw [Binary64.div_eq_round hx (isFinite_powerOfTen hk) (isZero_powerOfTen k), units_powerOfTen,
    hsign]
  rfl

theorem scaleDown_of_le (x : Binary64) (hk : k ≤ largestPower) :
    scaleDown x k = x / powerOfTen k := by
  rw [scaleDown, if_pos hk]

theorem scaleDown_of_lt {x : Binary64} (hx : x.isZero = false) (hk : largestPower < k)
    (hk' : k ≤ largestPower + largestPower) :
    scaleDown x k = x / powerOfTen largestPower / powerOfTen (k - largestPower) := by
  rw [scaleDown, if_neg (Nat.not_le.2 hk), if_neg (Bool.eq_false_iff.1 hx),
    scaleDown_of_le _ (by omega)]

theorem units_roundedDigits (s : Nat) : (roundedDigits s).units = roundedUnits s :=
  Binary64.units_round _ _ _

/-- The errors of the digits and of the power of ten do not make up for one and a half units. -/
theorem le_of_near {one digits power p q : Nat} (hq : Binary64.Near (digits * one) q)
    (hp : Binary64.Near (power * one) p) (h : 3 * power ≤ 2 * (digits * one)) : p ≤ q * one := by
  have hchain : (2 ^ 51 - 1) * (3 * (2 ^ 51 * p)) ≤ 2 ^ 51 * (2 * ((2 ^ 51 + 1) * (q * one))) := by
    calc (2 ^ 51 - 1) * (3 * (2 ^ 51 * p))
        ≤ (2 ^ 51 - 1) * (3 * ((2 ^ 51 + 1) * (power * one))) :=
          Nat.mul_le_mul_left _ (Nat.mul_le_mul_left _ hp.above)
      _ = (2 ^ 51 - 1) * ((2 ^ 51 + 1) * one) * (3 * power) := by ring
      _ ≤ (2 ^ 51 - 1) * ((2 ^ 51 + 1) * one) * (2 * (digits * one)) := Nat.mul_le_mul_left _ h
      _ = (2 ^ 51 + 1) * one * 2 * ((2 ^ 51 - 1) * (digits * one)) := by ring
      _ ≤ (2 ^ 51 + 1) * one * 2 * (2 ^ 51 * q) := Nat.mul_le_mul_left _ hq.below
      _ = 2 ^ 51 * (2 * ((2 ^ 51 + 1) * (q * one))) := by ring
  generalize q * one = r at hchain ⊢
  omega

/-- Nor do they if the quotient by the largest power of ten comes in between. -/
theorem le_of_near_of_near {one digits power power' largest p q a : Nat} (hlargest : 0 < largest)
    (hq : Binary64.Near (digits * one) q) (hl : Binary64.Near (power * one) largest)
    (ha : Binary64.Near (q * one) (largest * a)) (hp : Binary64.Near (power' * one) p)
    (h : 3 * (power * power') ≤ 2 * (digits * one)) : p ≤ a * one := by
  have hchain : 2 ^ 51 * (2 ^ 51 * largest) * ((2 ^ 51 - 1) * (2 ^ 51 - 1) * (3 * p)) ≤
      2 ^ 51 * (2 ^ 51 * largest) * ((2 ^ 51 + 1) * (2 ^ 51 + 1) * (2 * (a * one))) := by
    calc 2 ^ 51 * (2 ^ 51 * largest) * ((2 ^ 51 - 1) * (2 ^ 51 - 1) * (3 * p))
        = (2 ^ 51 - 1) * (2 ^ 51 - 1) * 3 * ((2 ^ 51 * largest) * (2 ^ 51 * p)) := by ring
      _ ≤ (2 ^ 51 - 1) * (2 ^ 51 - 1) * 3 *
          (((2 ^ 51 + 1) * (power * one)) * ((2 ^ 51 + 1) * (power' * one))) :=
        Nat.mul_le_mul_left _ (Nat.mul_le_mul hl.above hp.above)
      _ = (2 ^ 51 - 1) * (2 ^ 51 - 1) * ((2 ^ 51 + 1) * (2 ^ 51 + 1) * one * one) *
          (3 * (power * power')) := by ring
      _ ≤ (2 ^ 51 - 1) * (2 ^ 51 - 1) * ((2 ^ 51 + 1) * (2 ^ 51 + 1) * one * one) *
          (2 * (digits * one)) := Nat.mul_le_mul_left _ h
      _ = (2 ^ 51 - 1) * ((2 ^ 51 + 1) * (2 ^ 51 + 1) * one * one) * 2 *
          ((2 ^ 51 - 1) * (digits * one)) := by ring
      _ ≤ (2 ^ 51 - 1) * ((2 ^ 51 + 1) * (2 ^ 51 + 1) * one * one) * 2 * (2 ^ 51 * q) :=
        Nat.mul_le_mul_left _ hq.below
      _ = (2 ^ 51 + 1) * (2 ^ 51 + 1) * one * 2 * 2 ^ 51 * ((2 ^ 51 - 1) * (q * one)) := by ring
      _ ≤ (2 ^ 51 + 1) * (2 ^ 51 + 1) * one * 2 * 2 ^ 51 * (2 ^ 51 * (largest * a)) :=
        Nat.mul_le_mul_left _ ha.below
      _ = 2 ^ 51 * (2 ^ 51 * largest) * ((2 ^ 51 + 1) * (2 ^ 51 + 1) * (2 * (a * one))) := by ring
  have hpos : 0 < 2 ^ 51 * (2 ^ 51 * largest) :=
    Nat.mul_pos (by decide) (Nat.mul_pos (by decide) hlargest)
  have hle := Nat.le_of_mul_le_mul_left hchain hpos
  generalize a * one = r at hle ⊢
  omega

theorem isZero_roundedDigits (hs : 0 < s) (hle : s ≤ 10 ^ 17) :
    (roundedDigits s).isZero = false := by
  have hone := unitsPerOne_le_roundedUnits hs (le_pow_largestPower hle)
  rw [Bool.eq_false_iff, ne_eq, Binary64.isZero_iff, units_roundedDigits]
  exact (Binary64.unitsPerOne_pos.trans_le hone).ne'

/-- Digits over a finite power of ten. -/
theorem roundedDigits_div (hle : s ≤ 10 ^ 17) (hk : k ≤ largestPower) :
    roundedDigits s / powerOfTen k =
      .round false (roundedUnits s * Binary64.unitsPerOne) (roundedUnits (10 ^ k)) := by
  rw [div_powerOfTen (isFinite_roundedDigits hle) rfl hk, units_roundedDigits]

theorem positive_roundedDigits_div (hs : 0 < s) (hle : s ≤ 10 ^ 17) (hk : k ≤ largestPower)
    (h : 3 * 10 ^ k ≤ 2 * (s * Binary64.unitsPerOne)) :
    Positive (roundedDigits s / powerOfTen k) := by
  rw [roundedDigits_div hle hk]
  refine positive_round (roundedUnits_pow_pos hk) ?_
  exact le_of_near (near_roundedUnits hs (le_pow_largestPower hle)) (near_roundedUnits_pow hk) h

theorem positive_roundedDigits_div_div (hs : 0 < s) (hle : s ≤ 10 ^ 17) (hk : k ≤ largestPower)
    (h : 3 * (10 ^ largestPower * 10 ^ k) ≤ 2 * (s * Binary64.unitsPerOne)) :
    Positive (roundedDigits s / powerOfTen largestPower / powerOfTen k) := by
  have hlimit := le_pow_largestPower hle
  have hpos := roundedUnits_pow_pos (le_refl largestPower)
  have hfirst : (roundedDigits s / powerOfTen largestPower).isFinite :=
    isFinite_of_units_le_digits
      (units_div_powerOfTen_le (units_roundedDigits_le (hle.trans (by decide))) largestPower)
  rw [div_powerOfTen hfirst (by rw [roundedDigits_div hle le_rfl]; rfl) hk]
  rw [roundedDigits_div hle le_rfl, Binary64.isFinite_round_iff] at hfirst
  rw [roundedDigits_div hle le_rfl, Binary64.units_round]
  -- The first quotient is large enough for its error to be small beside it.
  have hlarge : roundedUnits (10 ^ largestPower) * 2 ^ 50 ≤
      roundedUnits s * Binary64.unitsPerOne :=
    (by decide +kernel : roundedUnits (10 ^ largestPower) * 2 ^ 50 ≤
      Binary64.unitsPerOne * Binary64.unitsPerOne).trans
      (Nat.mul_le_mul_right _ (unitsPerOne_le_roundedUnits hs hlimit))
  have hnearest := Binary64.near_nearest hpos hlarge hfirst
  refine positive_round (roundedUnits_pow_pos hk) ?_
  exact le_of_near_of_near hpos (near_roundedUnits hs hlimit) (near_roundedUnits_pow le_rfl)
    hnearest (near_roundedUnits_pow hk) h

/-- Digits that are scaled down do not vanish if the number reaches one and a half units. -/
theorem positive_scaleDown (hs : 0 < s) (hle : s ≤ 10 ^ 17) (hk : k ≤ largestPower + largestPower)
    (h : 3 * 10 ^ k ≤ 2 * (s * Binary64.unitsPerOne)) :
    Positive (scaleDown (roundedDigits s) k) := by
  by_cases hsmall : k ≤ largestPower
  · rw [scaleDown_of_le _ hsmall]
    exact positive_roundedDigits_div hs hle hsmall h
  · have hlarge := Nat.not_le.1 hsmall
    rw [scaleDown_of_lt (isZero_roundedDigits hs hle) hlarge hk]
    refine positive_roundedDigits_div_div hs hle (by omega) ?_
    rw [← pow_add, Nat.add_sub_cancel' hlarge.le]
    exact h

/-! ## Scaling -/

variable {y : Binary64}

theorem scale?_neg (x : Binary64) (k : Nat) :
    scale? x (Int.negSucc k) = some (scaleDown x (k + 1)) := by
  rw [scale?, if_pos (Int.negSucc_lt_zero k), Int.natAbs_negSucc]

/-- Digits that are scaled up. -/
theorem eq_of_scale?_natCast (hle : s ≤ 10 ^ 17) (hk : k ≤ largestPower)
    (h : scale? (roundedDigits s) k = some y) :
    y = .round false (roundedUnits s * roundedUnits (10 ^ k)) Binary64.unitsPerOne := by
  rw [scale?, if_neg (Int.not_lt.2 (Int.natCast_nonneg k)), if_pos (Int.ofNat_le.2 hk),
    Int.toNat_natCast, roundedDigits_mul hle hk] at h
  dsimp only at h
  split at h
  · cases h
  · exact (Option.some.inj h).symm

variable {n : Number} {m : Nat}

theorem StandsFor.encloses_of_negSucc (h : n.StandsFor m) (hn : n.power = Int.negSucc k) :
    Binary64.Encloses (n.coefficient * Binary64.unitsPerOne) (10 ^ (k + 1)) m := by
  have hencloses := h.encloses
  rwa [hn, Int.toNat_negSucc, Int.neg_negSucc, Int.toNat_natCast, pow_zero, Nat.mul_one] at hencloses

/-- What stands for more than the smallest positive magnitude is read as a positive number. -/
theorem StandsFor.positive (h : n.StandsFor m) (hm : 2 ≤ m) (hlt : m < Binary64.infiniteMagnitude)
    (hy : n.absolute? = some y) : Positive y := by
  have hle := h.coefficient_le
  have hpos := h.coefficient_pos
  rw [h.absolute?_eq] at hy
  cases hn : n.power with
  | ofNat k =>
    have hpower := power_le_of_encloses hpos hlt h.encloses
    rw [hn] at hy hpower
    have hk := Int.ofNat_le.1 hpower
    rw [eq_of_scale?_natCast hle hk hy]
    refine positive_round Binary64.unitsPerOne_pos ?_
    have hone := unitsPerOne_le_roundedUnits hpos (le_pow_largestPower hle)
    exact hone.trans (Nat.le_mul_of_pos_right _ (roundedUnits_pow_pos hk))
  | negSucc k =>
    have hbelow := (h.encloses_of_negSucc hn).below
    rw [hn, scale?_neg] at hy
    cases hy
    have hthree : 3 ≤ Binary64.unitsOf (m - 1) + Binary64.unitsOf m :=
      Nat.add_le_add (Binary64.unitsOf_mono (by omega : 1 ≤ m - 1)) (Binary64.unitsOf_mono hm)
    have hreach : 3 * 10 ^ (k + 1) ≤ 2 * (n.coefficient * Binary64.unitsPerOne) := by
      rw [Nat.mul_comm 3]
      exact (Nat.mul_le_mul_left _ hthree).trans hbelow
    refine positive_scaleDown hpos hle ?_ hreach
    by_contra hk
    have hpow : 10 ^ (largestPower + largestPower) ≤ 10 ^ (k + 1) :=
      Nat.pow_le_pow_right (by decide) (by omega)
    have hfar : 2 * (10 ^ 17 * Binary64.unitsPerOne) < 3 * 10 ^ (largestPower + largestPower) := by
      decide +kernel
    have hnear := Nat.mul_le_mul_left 2 (Nat.mul_le_mul_right Binary64.unitsPerOne hle)
    generalize 10 ^ (largestPower + largestPower) = far at hpow hfar
    generalize 10 ^ (k + 1) = near at hpow hreach
    generalize 2 * (10 ^ 17 * Binary64.unitsPerOne) = most at hfar hnear
    omega

/-- What stands for a magnitude with exact digits and an exact power of ten is read as just that
magnitude. -/
theorem StandsFor.exact (h : n.StandsFor m) (hlt : m < Binary64.infiniteMagnitude)
    (hdigits : n.coefficient ≤ 2 ^ 53) (hpower : n.power.natAbs ≤ 22)
    (hy : n.absolute? = some y) : y.negative = false ∧ y.magnitude.val = m := by
  have hle := h.coefficient_le
  have hs : roundedUnits n.coefficient = n.coefficient * Binary64.unitsPerOne := by
    have hexact := roundedUnits_of_exact (k := 0) hdigits (Nat.zero_le _)
    rwa [pow_zero, Nat.mul_one] at hexact
  have hone := Binary64.unitsPerOne_pos
  rw [h.absolute?_eq] at hy
  cases hn : n.power with
  | ofNat k =>
    have hencloses := h.encloses_of_natCast hn
    rw [hn] at hy hpower
    have hk : k ≤ 22 := hpower
    rw [eq_of_scale?_natCast hle (hk.trans (by decide)) hy, hs, roundedUnits_pow hk,
      Binary64.magnitude_round]
    refine ⟨rfl, ?_⟩
    refine (hencloses.congr Nat.one_pos hone ?_).nearest_eq hone hlt
    ring
  | negSucc k =>
    have hencloses := h.encloses_of_negSucc hn
    rw [hn] at hy hpower
    have hk : k + 1 ≤ 22 := hpower
    have hlargest : k + 1 ≤ largestPower := hk.trans (by decide)
    have hden : 0 < 10 ^ (k + 1) * Binary64.unitsPerOne :=
      Nat.mul_pos (Nat.pow_pos (by decide)) hone
    rw [scale?_neg, scaleDown_of_le _ hlargest, roundedDigits_div hle hlargest, hs,
      roundedUnits_pow hk] at hy
    cases hy
    rw [Binary64.magnitude_round]
    refine ⟨rfl, ?_⟩
    refine (hencloses.congr (Nat.pow_pos (by decide)) hden ?_).nearest_eq hden hlt
    ring

/-! ## What is read of what is written -/

/-- A finite number `y` was read of what is written of `x`: it keeps the sign, is zero only if `x`
is, and is `x` itself if `x` is written with exact digits and an exact power of ten. -/
structure Restores (x y : Binary64) : Prop where
  finite : y.isFinite
  sign : y.negative = x.negative
  zero : y.isZero = x.isZero
  exact : (ofBinary64 x).coefficient ≤ 2 ^ 53 → (ofBinary64 x).power.natAbs ≤ 22 → y = x

theorem Restores.refl {x : Binary64} (hx : x.isFinite) : Restores x x :=
  ⟨hx, rfl, rfl, fun _ _ => rfl⟩

theorem toBinary64?_zero (negative : Bool) :
    (ofBinary64 ⟨negative, ⟨0, by decide⟩⟩).toBinary64? = some ⟨negative, ⟨0, by decide⟩⟩ := by
  revert negative
  decide +kernel

/-- Some of what the midpoints around the smallest positive number enclose could be read as zero, but
not its shortest decimal. -/
theorem toBinary64?_smallest (negative : Bool) :
    (ofBinary64 ⟨negative, ⟨1, by decide⟩⟩).toBinary64? = some ⟨negative, ⟨1, by decide⟩⟩ := by
  revert negative
  decide +kernel

theorem negative_ofDigits (negative : Bool) (ds : List Digit) (leading : Int) :
    (ofDigits negative ds leading).negative = negative := by
  simp only [ofDigits]
  split_ifs <;> rfl

/-- A number is read with the sign that is written. -/
theorem toBinary64?_eq_some (hy : n.toBinary64? = some y) :
    ∃ a, n.absolute? = some a ∧ (a.negative = false → y = ⟨n.negative, a.magnitude⟩) := by
  obtain ⟨a, ha, rfl⟩ := Option.map_eq_some_iff.1 hy
  refine ⟨a, ha, fun hsign => ?_⟩
  cases n.negative with
  | true =>
    show Binary64.mk (!a.negative) a.magnitude = _
    rw [hsign]
    rfl
  | false =>
    show Binary64.mk a.negative a.magnitude = _
    rw [hsign]

theorem restores_of_toBinary64? {x : Binary64} (hx : x.isFinite)
    (hy : (ofBinary64 x).toBinary64? = some y) : Restores x y := by
  have hfinite := isFinite_of_toBinary64? hy
  obtain ⟨negative, m⟩ := x
  have hlt : m.val < Binary64.infiniteMagnitude := Binary64.isFinite_iff.1 hx
  rcases Nat.lt_trichotomy m.val 1 with hzero | hone | hm
  · obtain rfl : m = ⟨0, by decide⟩ := Fin.ext (Nat.lt_one_iff.1 hzero)
    rw [toBinary64?_zero] at hy
    cases hy
    exact .refl hx
  · obtain rfl : m = ⟨1, by decide⟩ := Fin.ext hone
    rw [toBinary64?_smallest] at hy
    cases hy
    exact .refl hx
  have hnonzero : (Binary64.mk negative m).isZero = false :=
    beq_eq_false_iff_ne.2 (Nat.lt_of_succ_lt hm).ne'
  have hwritten : ofBinary64 ⟨negative, m⟩ = ofDecimal negative (Decimal.shortest m) := by
    rw [ofBinary64, hnonzero]
    rfl
  have hstands := standsFor_ofDecimal negative (by omega : 0 < m.val) hlt
  rw [← hwritten] at hstands
  have hnegative : (ofBinary64 ⟨negative, m⟩).negative = negative := by
    rw [hwritten]
    exact negative_ofDigits _ _ _
  obtain ⟨a, ha, hsigned⟩ := toBinary64?_eq_some hy
  have hpositive := hstands.positive hm hlt ha
  rw [hsigned hpositive.sign, hnegative] at hfinite ⊢
  refine ⟨hfinite, rfl, ?_, fun hdigits hpower => ?_⟩
  · rw [hnonzero]
    exact hpositive.nonzero
  · obtain ⟨-, hmagnitude⟩ := hstands.exact hlt hdigits hpower ha
    rw [Fin.ext hmagnitude]

end SimilarItems.Json.Number
