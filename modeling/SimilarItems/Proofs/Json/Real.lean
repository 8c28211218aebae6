import SimilarItems.Json.Real
import SimilarItems.Proofs.Binary64.Bounds
import SimilarItems.Proofs.Decimal.Shortest
import SimilarItems.Proofs.Json.RoundTrip

/-!
# Finite numbers are read back

Reading scales rounded digits with a rounded power of ten, so it need not give back the number that
was written, and could overflow near the largest number. What is written of a finite number never
does.
-/

namespace SimilarItems.Json

/-- The exponent as an integer. -/
def Exponent.value (e : Exponent) : Int :=
  if e.negative then -(Digits.value e.digits : Int) else Digits.value e.digits

namespace Number

/-- All digits of a number, read as one natural number. -/
def coefficient (n : Number) : Nat := Digits.value (n.whole ++ n.fraction)

/-- The power of ten that scales the digits of a number. -/
def power (n : Number) : Int := n.exponent.elim 0 Exponent.value - n.fraction.length

/-! ## Gathering digits -/

theorem gather_eq {s : Nat} {ds : List Digit} (h : Digits.valueFrom s ds ≤ significandLimit) :
    gather s ds = (Digits.valueFrom s ds, ds.length) := by
  induction ds generalizing s with
  | nil => rfl
  | cons d ds ih =>
    have hcons : Digits.valueFrom s (d :: ds) = Digits.valueFrom (10 * s + d.val) ds := rfl
    rw [hcons] at h ⊢
    have hfirst := (Digits.le_valueFrom (10 * s + d.val) ds).trans h
    simp only [gather]
    rw [if_pos hfirst, ih h, List.length_cons]

/-- Digits that make a small number are all gathered. -/
theorem significand_eq {n : Number} (h : n.coefficient ≤ significandLimit) :
    n.significand = (n.coefficient, -(n.fraction.length : Int)) := by
  rw [coefficient, ← Digits.valueFrom_value] at h ⊢
  have hwhole := (Digits.le_valueFrom (Digits.value n.whole) n.fraction).trans h
  have hgather : gather 0 n.whole = (Digits.value n.whole, n.whole.length) := gather_eq hwhole
  simp only [significand, hgather, gather_eq h, Nat.sub_self]
  simp

/-- The digits of a number, rounded. -/
def roundedDigits (n : Nat) : Binary64 := .round false (n * Binary64.unitsPerOne) 1

/-- A number is read by scaling its digits, if they and the exponent are small enough. -/
theorem absolute?_eq {n : Number} (hdigits : n.coefficient ≤ significandLimit)
    (hexponent : ∀ e ∈ n.exponent, Digits.value e.digits ≤ exponentLimit) :
    n.absolute? = scale? (roundedDigits n.coefficient) n.power := by
  simp only [absolute?, significand_eq hdigits, power, roundedDigits]
  cases h : n.exponent with
  | none => rw [Option.elim_none, Int.zero_sub]
  | some e =>
    have hle := hexponent e h
    simp only [Nat.not_lt.2 hle, if_false, Option.elim_some, Exponent.value]
    congr 1
    split <;> omega

/-! ## Scaling -/

/-- Twice the midpoint between the two largest finite magnitudes, in units. -/
def twiceMidpoint : Nat :=
  Binary64.unitsOf (Binary64.infiniteMagnitude - 2) +
    Binary64.unitsOf (Binary64.infiniteMagnitude - 1)

/-- The number `n · 10 ^ k` is at most the midpoint between the two largest finite magnitudes. -/
def UpToMidpoint (n k : Nat) : Prop := 2 * (n * 10 ^ k) * Binary64.unitsPerOne ≤ twiceMidpoint

/-- The units of a natural number that is rounded. -/
def roundedUnits (n : Nat) : Nat :=
  Binary64.unitsOf (Binary64.nearest (n * Binary64.unitsPerOne) 1)

theorem roundedUnits_mono {n n' : Nat} (h : n ≤ n') : roundedUnits n ≤ roundedUnits n' :=
  Binary64.unitsOf_mono (Binary64.nearest_mono (by decide) (Nat.mul_le_mul_right _ h))

/-- The rounded product of a rounded natural number and a rounded power of ten, as a magnitude. -/
def scaledMagnitude (n k : Nat) : Nat :=
  Binary64.nearest (roundedUnits n * roundedUnits (10 ^ k)) Binary64.unitsPerOne

theorem scaledMagnitude_mono {n n' k k' : Nat} (hn : n ≤ n') (hk : k ≤ k') :
    scaledMagnitude n k ≤ scaledMagnitude n' k' := by
  have hpow : 10 ^ k ≤ 10 ^ k' := Nat.pow_le_pow_right (by decide) hk
  refine Binary64.nearest_mono Binary64.unitsPerOne_pos ?_
  exact Nat.mul_le_mul (roundedUnits_mono hn) (roundedUnits_mono hpow)

/-- Powers of ten that leave room for eighteen digits never overflow, and with the larger ones all
numbers up to the midpoint were tried. -/
theorem scaledMagnitude_lt {n k : Nat} (hn : n ≤ 10 ^ 17) (hk : k ≤ largestPower)
    (h : UpToMidpoint n k) :
    scaledMagnitude n k < Binary64.infiniteMagnitude := by
  by_cases hsmall : k ≤ 290
  · exact (scaledMagnitude_mono hn hsmall).trans_lt (by decide +kernel)
  · have htried : ∀ j < 309, 290 < j → scaledMagnitude
        (twiceMidpoint / (2 * Binary64.unitsPerOne * 10 ^ j)) j < Binary64.infiniteMagnitude := by
      decide +kernel
    have hpos : 0 < 2 * Binary64.unitsPerOne * 10 ^ k :=
      Nat.mul_pos (Nat.mul_pos (by decide) Binary64.unitsPerOne_pos) (Nat.pow_pos (by decide))
    refine (scaledMagnitude_mono ?_ le_rfl).trans_lt
      (htried k (Nat.lt_succ_of_le hk) (Nat.lt_of_not_le hsmall))
    rw [Nat.le_div_iff_mul_le hpos]
    rw [UpToMidpoint] at h
    generalize Binary64.unitsPerOne = one at h ⊢
    calc n * (2 * one * 10 ^ k) = 2 * (n * 10 ^ k) * one := by ring
      _ ≤ twiceMidpoint := h

/-- A power of ten that scales a number to what is finite is finite. -/
theorem le_largestPower {n k : Nat} (hn : 0 < n)
    (h : n * 10 ^ k * Binary64.unitsPerOne ≤ 2 ^ 2098) : k ≤ largestPower := by
  by_contra hk
  have hpow : 10 ^ (largestPower + 1) ≤ 10 ^ k :=
    Nat.pow_le_pow_right (by decide) (Nat.lt_of_not_le hk)
  have hle : 10 ^ (largestPower + 1) * Binary64.unitsPerOne ≤ 2 ^ 2098 := by
    refine le_trans (Nat.mul_le_mul_right _ ?_) h
    exact hpow.trans (Nat.le_mul_of_pos_left _ hn)
  exact absurd hle (by decide +kernel)

theorem UpToMidpoint.le_largestPower {n k : Nat} (h : UpToMidpoint n k) (hn : 0 < n) :
    k ≤ largestPower := by
  have hmidpoint : twiceMidpoint ≤ 2 * 2 ^ 2098 := by decide +kernel
  have hle := h.trans hmidpoint
  rw [Nat.mul_assoc] at hle
  exact Number.le_largestPower hn (Nat.le_of_mul_le_mul_left hle Nat.two_pos)

/-- Natural numbers up to the largest power of ten do not overflow. -/
theorem nearest_lt_of_le {n : Nat} (h : n ≤ 10 ^ largestPower) :
    Binary64.nearest (n * Binary64.unitsPerOne) 1 < Binary64.infiniteMagnitude := by
  refine (Binary64.nearest_mono (by decide) (Nat.mul_le_mul_right _ h)).trans_lt ?_
  decide +kernel

theorem isFinite_powerOfTen {k : Nat} (hk : k ≤ largestPower) : (powerOfTen k).isFinite := by
  rw [powerOfTen, Binary64.isFinite_round_iff]
  exact nearest_lt_of_le (Nat.pow_le_pow_right (by decide) hk)

theorem isFinite_roundedDigits {n : Nat} (hn : n ≤ 10 ^ 17) : (roundedDigits n).isFinite := by
  rw [roundedDigits, Binary64.isFinite_round_iff]
  exact nearest_lt_of_le (hn.trans (Nat.pow_le_pow_right (by decide) (by decide)))

/-- Digits that are scaled up are multiplied with a power of ten. -/
theorem roundedDigits_mul {n k : Nat} (hn : n ≤ 10 ^ 17) (hk : k ≤ largestPower) :
    roundedDigits n * powerOfTen k =
      .round false (roundedUnits n * roundedUnits (10 ^ k)) Binary64.unitsPerOne := by
  rw [Binary64.mul_eq_round (isFinite_roundedDigits hn) (isFinite_powerOfTen hk), roundedDigits,
    powerOfTen, Binary64.units_round, Binary64.units_round]
  rfl

/-- Scaling what is written of a finite number does not overflow. -/
theorem exists_scale? {n : Nat} {e : Int} (hn : 0 < n) (hle : n ≤ 10 ^ 17)
    (h : ∀ k : Nat, e = k → UpToMidpoint n k) : ∃ y, scale? (roundedDigits n) e = some y := by
  by_cases he : e < 0
  · rw [scale?, if_pos he]
    exact ⟨_, rfl⟩
  · obtain ⟨k, rfl⟩ := Int.eq_ofNat_of_zero_le (Int.not_lt.1 he)
    have hk := (h k rfl).le_largestPower hn
    have hproduct : (roundedDigits n * powerOfTen k).isInfinite = false := by
      rw [roundedDigits_mul hle hk, Binary64.isInfinite, Binary64.magnitude_round,
        beq_eq_false_iff_ne]
      exact (scaledMagnitude_lt hle hk (h k rfl)).ne
    rw [scale?, if_neg he, if_pos (Int.ofNat_le.2 hk), Int.toNat_natCast]
    simp only [hproduct]
    exact ⟨_, rfl⟩

/-! ## Digits with a place for the point -/

variable {negative : Bool} {ds : List Digit} {leading : Int}

theorem wellFormed_ofDigits (hne : ds ≠ []) (hz : ds.head? ≠ some 0) :
    (ofDigits negative ds leading).WellFormed := by
  obtain ⟨d, ds, rfl⟩ := List.exists_cons_of_ne_nil hne
  have hd : some d ≠ some 0 := hz
  simp only [ofDigits]
  split_ifs with hplain hneg hlen
  · exact ⟨List.cons_ne_nil _ _, fun _ => rfl, fun e he => by cases he⟩
  · exact ⟨List.cons_ne_nil _ _, fun h => absurd h hd, fun e he => by cases he⟩
  · exact ⟨List.cons_ne_nil _ _, fun h => absurd h hd, fun e he => by cases he⟩
  · refine ⟨List.cons_ne_nil _ _, fun h => absurd h hd, fun e he => ?_⟩
    cases he
    exact Digits.ofNat_ne_nil _

/-- Wherever the point stands, and however many zeros are put after the digits, they are scaled as
their place says. -/
theorem exists_coefficient_ofDigits (negative : Bool) (leading : Int) (hne : ds ≠ []) :
    ∃ zeros : Nat,
      (ofDigits negative ds leading).coefficient = Digits.value ds * 10 ^ zeros ∧
      (ofDigits negative ds leading).power + zeros = leading - (ds.length - 1 : Nat) := by
  have hlength := List.length_pos_of_ne_nil hne
  simp only [ofDigits]
  split_ifs with hplain hneg hsize
  · refine ⟨0, ?_, ?_⟩
    · show Digits.value (List.replicate 1 0 ++ (List.replicate _ 0 ++ ds)) = _
      rw [Digits.value_zeros_append, Digits.value_zeros_append, pow_zero, Nat.mul_one]
    · simp only [power, Option.elim_none, List.length_append, List.length_replicate]
      omega
  · refine ⟨leading.toNat + 1 - ds.length + 1, ?_, ?_⟩
    · show Digits.value (ds ++ List.replicate _ 0 ++ List.replicate 1 0) = _
      rw [Digits.value_append_zeros, Digits.value_append_zeros, Nat.mul_assoc, ← pow_add]
    · simp only [power, Option.elim_none, List.length_singleton]
      omega
  · refine ⟨0, ?_, ?_⟩
    · rw [coefficient, List.take_append_drop, pow_zero, Nat.mul_one]
    · simp only [power, Option.elim_none, List.length_drop]
      omega
  · refine ⟨0, ?_, ?_⟩
    · rw [coefficient, List.take_append_drop, pow_zero, Nat.mul_one]
    · simp only [power, Option.elim_some, Exponent.value, Digits.value_ofNat, List.length_drop,
        decide_eq_true_iff]
      split <;> omega

theorem coefficient_ofDigits_le (hvalue : Digits.value ds ≤ 10 ^ 17) :
    (ofDigits negative ds leading).coefficient ≤ 10 ^ 17 := by
  simp only [ofDigits]
  split_ifs with hplain hneg hsize
  · show Digits.value (List.replicate 1 0 ++ (List.replicate _ 0 ++ ds)) ≤ _
    rwa [Digits.value_zeros_append, Digits.value_zeros_append]
  · have hleading : leading ≤ 15 := hplain.2
    refine (Digits.value_lt_pow _).le.trans (Nat.pow_le_pow_right (by decide) ?_)
    simp only [List.length_append, List.length_replicate, List.length_singleton]
    omega
  · rwa [coefficient, List.take_append_drop]
  · rwa [coefficient, List.take_append_drop]

theorem value_exponent_ofDigits {e : Exponent} (h : e ∈ (ofDigits negative ds leading).exponent) :
    Digits.value e.digits = leading.natAbs := by
  simp only [ofDigits] at h
  split_ifs at h
  · cases h
  · cases h
  · cases h
  · cases h
    exact Digits.value_ofNat _

/-! ## What is written of a magnitude -/

/-- A number stands for the magnitude `m`: the midpoints to the neighbours of `m` enclose it, and
its digits and its exponent are small enough to be read. -/
structure StandsFor (n : Number) (m : Nat) : Prop where
  coefficient_pos : 0 < n.coefficient
  coefficient_le : n.coefficient ≤ 10 ^ 17
  exponent_le : ∀ e ∈ n.exponent, Digits.value e.digits ≤ exponentLimit
  encloses : Binary64.Encloses (n.coefficient * 10 ^ n.power.toNat * Binary64.unitsPerOne)
    (10 ^ (-n.power).toNat) m

/-- What the midpoints to the neighbours of a finite magnitude enclose is not scaled by a power of ten
that is not finite. -/
theorem power_le_of_encloses {s m : Nat} {e : Int} (hs : 0 < s) (hm : m < Binary64.infiniteMagnitude)
    (h : Binary64.Encloses (s * 10 ^ e.toNat * Binary64.unitsPerOne) (10 ^ (-e).toNat) m) :
    e ≤ largestPower := by
  by_cases hneg : e < 0
  · exact hneg.le.trans (Int.natCast_nonneg _)
  · obtain ⟨k, rfl⟩ := Int.eq_ofNat_of_zero_le (Int.not_lt.1 hneg)
    have habove := h.above
    rw [Int.toNat_natCast, Int.toNat_neg_natCast, pow_zero, Nat.one_mul] at habove
    have hlast := Binary64.unitsOf_mono hm.le
    have hnext : Binary64.unitsOf (m + 1) ≤ _ := Binary64.unitsOf_mono (Nat.succ_le_of_lt hm)
    rw [Binary64.unitsOf_infiniteMagnitude] at hlast hnext
    have hle := le_largestPower hs (n := s) (k := k) (by omega)
    exact Int.ofNat_le.2 hle

/-- Digits stand for what their value does, however the point and the zeros are placed. -/
theorem standsFor_ofDigits {m zeros : Nat} {e : Int} (hne : ds ≠ []) (hpos : 0 < Digits.value ds)
    (hle : Digits.value ds ≤ 10 ^ 17) (hplace : leading - (ds.length - 1 : Nat) = e + zeros)
    (hleading : leading.natAbs ≤ exponentLimit)
    (h : Binary64.Encloses (Digits.value ds * 10 ^ zeros * 10 ^ e.toNat * Binary64.unitsPerOne)
      (10 ^ (-e).toNat) m) : (ofDigits negative ds leading).StandsFor m := by
  obtain ⟨k, hcoefficient, hpower⟩ :=
    exists_coefficient_ofDigits negative leading hne
  refine ⟨?_, coefficient_ofDigits_le hle, fun d hd => ?_, ?_⟩
  · rw [hcoefficient]
    exact Nat.mul_pos hpos (Nat.pow_pos (by decide))
  · rw [value_exponent_ofDigits hd]
    exact hleading
  · refine h.congr (Nat.pow_pos (by decide)) (Nat.pow_pos (by decide)) ?_
    rw [hcoefficient]
    generalize (ofDigits negative ds leading).power = p at hpower ⊢
    have hpow : 10 ^ zeros * 10 ^ e.toNat * 10 ^ (-p).toNat =
        10 ^ k * 10 ^ p.toNat * 10 ^ (-e).toNat := by
      rw [← pow_add, ← pow_add, ← pow_add, ← pow_add]
      congr 1
      omega
    generalize Binary64.unitsPerOne = one
    calc Digits.value ds * 10 ^ zeros * 10 ^ e.toNat * one * 10 ^ (-p).toNat
        = Digits.value ds * one * (10 ^ zeros * 10 ^ e.toNat * 10 ^ (-p).toNat) := by ring
      _ = Digits.value ds * one * (10 ^ k * 10 ^ p.toNat * 10 ^ (-e).toNat) := by rw [hpow]
      _ = Digits.value ds * 10 ^ k * 10 ^ p.toNat * one * 10 ^ (-e).toNat := by ring

/-- The shortest decimal of a finite magnitude stands for it. -/
theorem standsFor_ofDecimal (negative : Bool) {m : Nat} (hm : 0 < m)
    (hlt : m < Binary64.infiniteMagnitude) :
    (ofDecimal negative (Decimal.shortest m)).StandsFor m := by
  obtain ⟨i, c, hi, hshortest, hreads, hpos, hle⟩ := Decimal.shortest_spec hm
  have hencloses := Decimal.Grid.encloses_of_readsBack hreads
  have hvalue := Digits.value_eq_dropTrailingZeros (Digits.ofNat c)
  have hlength : (Digits.ofNat c).length ≤ 18 :=
    Digits.length_ofNat_le (by decide) (hle.trans_lt (by decide))
  have hlengthpos := List.length_pos_of_ne_nil (Digits.ofNat_ne_nil c)
  have hdroplength := Digits.length_dropTrailingZeros_le (Digits.ofNat c)
  have hlow : -341 ≤ (Decimal.gridOf m i).exponent := by
    rw [Decimal.gridOf, Decimal.leadingExponent_eq]
    show -341 ≤ _ - 325 - (i : Int)
    omega
  rw [Digits.value_ofNat] at hvalue
  rw [hshortest]
  simp only [ofDecimal]
  generalize Decimal.gridOf m i = g at hencloses hlow ⊢
  rw [Decimal.Grid.denScale, Decimal.Grid.numScale, Nat.mul_comm Binary64.unitsPerOne,
    ← Nat.mul_assoc] at hencloses
  have hhigh := power_le_of_encloses hpos hlt hencloses
  rw [largestPower] at hhigh
  generalize Digits.dropTrailingZeros (Digits.ofNat c) = ds at hvalue hdroplength ⊢
  generalize (Digits.ofNat c).length = size at hvalue hlength hlengthpos hdroplength ⊢
  have hdspos : 0 < Digits.value ds := by
    refine Nat.pos_of_ne_zero fun hzero => ?_
    rw [hzero, Nat.zero_mul] at hvalue
    omega
  have hne : ds ≠ [] := by
    rintro rfl
    exact absurd hdspos (by decide)
  have hdslength := List.length_pos_of_ne_nil hne
  have hdsle : Digits.value ds ≤ c := by
    rw [hvalue]
    exact Nat.le_mul_of_pos_right _ (Nat.pow_pos (by decide))
  rw [hvalue] at hencloses
  refine standsFor_ofDigits hne hdspos (hdsle.trans hle) ?_ ?_ hencloses
  · omega
  · rw [exponentLimit]
    omega

theorem StandsFor.encloses_of_natCast {n : Number} {m k : Nat} (h : n.StandsFor m)
    (hn : n.power = (k : Int)) :
    Binary64.Encloses (n.coefficient * 10 ^ k * Binary64.unitsPerOne) 1 m := by
  have hencloses := h.encloses
  rwa [hn, Int.toNat_natCast, Int.toNat_neg_natCast, pow_zero] at hencloses

theorem StandsFor.absolute?_eq {n : Number} {m : Nat} (h : n.StandsFor m) :
    n.absolute? = scale? (roundedDigits n.coefficient) n.power :=
  Number.absolute?_eq (h.coefficient_le.trans (by decide)) h.exponent_le

theorem StandsFor.upToMidpoint {n : Number} {m k : Nat} (h : n.StandsFor m)
    (hlt : m + 1 < Binary64.infiniteMagnitude) (hn : n.power = k) :
    UpToMidpoint n.coefficient k := by
  have habove := (h.encloses_of_natCast hn).above
  rw [Nat.one_mul] at habove
  rw [UpToMidpoint, Nat.mul_assoc]
  refine habove.trans (Nat.add_le_add (Binary64.unitsOf_mono ?_) (Binary64.unitsOf_mono ?_))
  · omega
  · omega

/-! ## Finite numbers -/

theorem wellFormed_ofBinary64 (x : Binary64) : (ofBinary64 x).WellFormed := by
  rw [ofBinary64]
  by_cases hzero : x.isZero
  · rw [if_pos hzero]
    exact ⟨List.cons_ne_nil _ _, fun _ => rfl, fun e he => by cases he⟩
  · have hm : 0 < x.magnitude.val := by
      rw [Binary64.isZero, beq_iff_eq] at hzero
      exact Nat.pos_of_ne_zero hzero
    obtain ⟨i, c, -, hshortest, -, hpos, -⟩ := Decimal.shortest_spec hm
    have hvalue : Digits.value (Digits.ofNat c) ≠ 0 := by
      rw [Digits.value_ofNat]
      exact hpos.ne'
    obtain ⟨hhead, hne⟩ := Digits.head?_dropTrailingZeros hvalue
    rw [if_neg hzero, hshortest]
    refine wellFormed_ofDigits hne ?_
    rw [hhead]
    exact Digits.head?_ofNat_ne hpos.ne'

theorem exists_absolute?_zero (negative : Bool) :
    ∃ y, (ofBinary64 ⟨negative, ⟨0, by decide⟩⟩).absolute? = some y := by
  rw [← Option.isSome_iff_exists]
  revert negative
  decide +kernel

/-- The largest finite number is read back. Its decimal lies above the midpoint below it, so that
the bound of the smaller ones does not cover it. -/
theorem exists_absolute?_largest (negative : Bool) :
    ∃ y, (ofBinary64 ⟨negative, ⟨Binary64.infiniteMagnitude - 1, by decide⟩⟩).absolute? =
      some y := by
  rw [← Option.isSome_iff_exists]
  revert negative
  decide +kernel

/-- What stands for a finite magnitude below the largest is read back. -/
theorem StandsFor.exists_absolute? {n : Number} {m : Nat} (h : n.StandsFor m)
    (hlt : m + 1 < Binary64.infiniteMagnitude) : ∃ y, n.absolute? = some y := by
  rw [h.absolute?_eq]
  exact exists_scale? h.coefficient_pos h.coefficient_le fun k hk => h.upToMidpoint hlt hk

/-- Every finite number is read back as some number. -/
theorem exists_toBinary64?_ofBinary64 {x : Binary64} (hx : x.isFinite) :
    ∃ y, (ofBinary64 x).toBinary64? = some y := by
  suffices h : ∃ y, (ofBinary64 x).absolute? = some y by
    obtain ⟨y, hy⟩ := h
    exact ⟨_, by rw [toBinary64?, hy, Option.map_some]⟩
  obtain ⟨negative, m⟩ := x
  have hlt : m.val < Binary64.infiniteMagnitude := Binary64.isFinite_iff.1 hx
  by_cases hzero : m.val = 0
  · have hm : m = ⟨0, by decide⟩ := Fin.ext hzero
    rw [hm]
    exact exists_absolute?_zero negative
  by_cases hlargest : m.val = Binary64.infiniteMagnitude - 1
  · have hm : m = ⟨Binary64.infiniteMagnitude - 1, by decide⟩ := Fin.ext hlargest
    rw [hm]
    exact exists_absolute?_largest negative
  rw [ofBinary64, Binary64.isZero, if_neg (by rwa [beq_iff_eq])]
  have hbelow : m.val + 1 < Binary64.infiniteMagnitude := by omega
  exact (standsFor_ofDecimal negative (Nat.pos_of_ne_zero hzero) hlt).exists_absolute? hbelow

/-! ## What is read is finite -/

/-- The digits that are gathered, as a number, and what comes of dividing it by powers of ten. -/
def digitsExponent : Nat := 64 + 1074

theorem gather_le {s : Nat} (h : s ≤ significandLimit) (ds : List Digit) :
    (gather s ds).1 ≤ significandLimit := by
  induction ds generalizing s with
  | nil => exact h
  | cons d ds ih =>
    simp only [gather]
    split
    · exact ih ‹_›
    · exact h

theorem significand_le (n : Number) : n.significand.1 ≤ significandLimit :=
  gather_le (gather_le (Nat.zero_le _) _) _

theorem units_roundedDigits_le {s : Nat} (h : s ≤ significandLimit) :
    (roundedDigits s).units ≤ 2 ^ digitsExponent := by
  rw [roundedDigits, Binary64.units_round]
  refine Binary64.unitsOf_nearest_le_pow Nat.one_pos ?_
  rw [Nat.one_mul, digitsExponent, ← Binary64.unitsPerOne_mul_pow, Nat.mul_comm]
  exact Nat.mul_le_mul_left _ (h.trans (by decide))

theorem atLeast_powerOfTen (k : Nat) : Binary64.AtLeast 1074 (powerOfTen k) := by
  refine ⟨Binary64.nonnegative_round _ _, fun hfinite => ?_⟩
  rw [powerOfTen, Binary64.isFinite_round_iff] at hfinite
  rw [powerOfTen, Binary64.units_round]
  refine Binary64.pow_le_unitsOf_nearest Nat.one_pos ?_ hfinite
  rw [Nat.one_mul, ← Nat.zero_add 1074, ← Binary64.unitsPerOne_mul_pow, pow_zero, Nat.mul_one]
  exact Nat.le_mul_of_pos_left _ (Nat.pow_pos (by decide))

theorem isFinite_of_units_le_digits {x : Binary64} (h : x.units ≤ 2 ^ digitsExponent) :
    x.isFinite := Binary64.isFinite_of_units_le h (by decide)

theorem units_div_powerOfTen_le {x : Binary64} (h : x.units ≤ 2 ^ digitsExponent) (k : Nat) :
    (x / powerOfTen k).units ≤ 2 ^ digitsExponent :=
  Binary64.units_div_le (isFinite_of_units_le_digits h) h (atLeast_powerOfTen k) (Nat.add_comm _ _)

theorem isFinite_scaleDown {x : Binary64} (h : x.units ≤ 2 ^ digitsExponent) (k : Nat) :
    (scaleDown x k).isFinite := by
  induction x, k using scaleDown.induct with
  | case1 x k hk =>
    rw [scaleDown, if_pos hk]
    exact isFinite_of_units_le_digits (units_div_powerOfTen_le h k)
  | case2 x k hk hzero =>
    rw [scaleDown, if_neg hk, if_pos hzero]
    exact isFinite_of_units_le_digits h
  | case3 x k hk hzero ih =>
    rw [scaleDown, if_neg hk, if_neg hzero]
    exact ih (units_div_powerOfTen_le h largestPower)

theorem isFinite_of_scale? {x y : Binary64} {e : Int} (h : x.units ≤ 2 ^ digitsExponent)
    (hy : scale? x e = some y) : y.isFinite := by
  have hx := isFinite_of_units_le_digits h
  rw [scale?] at hy
  split at hy
  · cases hy
    exact isFinite_scaleDown h _
  · rename_i hnegative
    split at hy
    · rename_i hle
      have hpower : (powerOfTen e.toNat).isFinite := isFinite_powerOfTen (by omega)
      dsimp only at hy
      split at hy
      · cases hy
      · rename_i hinfinite
        cases hy
        refine Binary64.isFinite_of_not (Bool.eq_false_iff.2 hinfinite) ?_
        have := Binary64.nearest_le (x.units * (powerOfTen e.toNat).units) Binary64.unitsPerOne
        rw [Binary64.mul_eq_round hx hpower, Binary64.isNaN, Binary64.magnitude_round,
          decide_eq_false_iff_not]
        omega
    · split at hy
      · cases hy
        exact hx
      · cases hy

/-- Every number that is read is finite. -/
theorem isFinite_of_toBinary64? {n : Number} {y : Binary64} (h : n.toBinary64? = some y) :
    y.isFinite := by
  obtain ⟨x, hx, rfl⟩ := Option.map_eq_some_iff.1 h
  have hdigits := units_roundedDigits_le n.significand_le
  have hfinite : x.isFinite := by
    simp only [absolute?] at hx
    split at hx
    · exact isFinite_of_scale? hdigits hx
    · split at hx
      · split at hx
        · cases hx
          exact Binary64.isFinite_zero false
        · cases hx
      · exact isFinite_of_scale? hdigits hx
  split
  · exact hfinite
  · exact hfinite

end Number

end SimilarItems.Json
