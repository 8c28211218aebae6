import SimilarItems.Proofs.Binary64.Nearest

/-!
# The order of binary64 numbers

The numbers are ordered by their kind, from the positive NaNs down to the negative ones, and those of
one kind by their value or, if they are no numbers, by their payload. That is the order of their bits
read as integers with a sign, if all bits but the sign are turned round in those of negative numbers.
-/

namespace SimilarItems.Binary64

/-- The kinds of binary64 numbers, from the highest to the lowest. -/
inductive Kind where
  | positiveNaN
  | positiveInfinity
  | positive
  | positiveZero
  | negativeZero
  | negative
  | negativeInfinity
  | negativeNaN
deriving DecidableEq

/-- The number of kinds above a kind. -/
def Kind.depth : Kind → Nat
  | positiveNaN => 0
  | positiveInfinity => 1
  | positive => 2
  | positiveZero => 3
  | negativeZero => 4
  | negative => 5
  | negativeInfinity => 6
  | negativeNaN => 7

/-- The kind of a number. -/
def kind (x : Binary64) : Kind :=
  if x.isNaN then if x.negative then .negativeNaN else .positiveNaN
  else if x.isInfinite then if x.negative then .negativeInfinity else .positiveInfinity
  else if x.isZero then if x.negative then .negativeZero else .positiveZero
  else if x.negative then .negative else .positive

/-- The fraction field of a NaN. -/
def payload (x : Binary64) : Nat := x.magnitude.val % 2 ^ 52

/-- What tells numbers of one kind apart: the payload of a NaN, with its sign, and the value of a
finite number, in units. -/
def content (x : Binary64) : Int :=
  if x.isNaN then if x.negative then -(x.payload : Int) else x.payload
  else if x.isInfinite then 0
  else x.signedUnits

/-- `x` stands above `y`: it is of a higher kind, or of the same kind and greater. -/
def Above (x y : Binary64) : Prop :=
  x.kind.depth < y.kind.depth ∨ x.kind = y.kind ∧ y.content < x.content

instance (x y : Binary64) : Decidable (Above x y) := inferInstanceAs (Decidable (_ ∨ _ ∧ _))

theorem Kind.depth_injective {k k' : Kind} (h : k.depth = k'.depth) : k = k' := by
  cases k <;> cases k' <;> first | rfl | cases h

/-- Each kind has its own places in the total order. -/
theorem depth_kind (x : Binary64) :
    (x.kind.depth = 0 ∧ 2 ^ 63 + infiniteMagnitude < x.rank) ∨
    (x.kind.depth = 1 ∧ x.rank = 2 ^ 63 + infiniteMagnitude) ∨
    (x.kind.depth = 2 ∧ 2 ^ 63 < x.rank ∧ x.rank < 2 ^ 63 + infiniteMagnitude) ∨
    (x.kind.depth = 3 ∧ x.rank = 2 ^ 63) ∨
    (x.kind.depth = 4 ∧ x.rank = 2 ^ 63 - 1) ∨
    (x.kind.depth = 5 ∧ 2 ^ 63 - 1 - infiniteMagnitude < x.rank ∧ x.rank < 2 ^ 63 - 1) ∨
    (x.kind.depth = 6 ∧ x.rank = 2 ^ 63 - 1 - infiniteMagnitude) ∨
    (x.kind.depth = 7 ∧ x.rank < 2 ^ 63 - 1 - infiniteMagnitude) := by
  have hlt : x.magnitude.val < 2 ^ 63 := x.magnitude.isLt
  unfold kind rank isNaN isInfinite isZero infiniteMagnitude
  generalize x.magnitude.val = m at hlt ⊢
  cases x.negative
  all_goals
    simp only [decide_eq_true_eq, beq_iff_eq, if_true, if_false, Bool.false_eq_true]
    split_ifs <;> simp only [Kind.depth, true_and] <;> omega

/-- The sign and the class of a number are told by its kind. -/
theorem eq_of_kind_eq {x y : Binary64} (h : x.kind = y.kind) :
    x.negative = y.negative ∧ x.isNaN = y.isNaN ∧
      (x.isNaN = false → x.isInfinite = y.isInfinite) := by
  unfold kind at h
  generalize x.negative = a, x.isNaN = b, x.isInfinite = c, x.isZero = d, y.negative = a',
    y.isNaN = b', y.isInfinite = c', y.isZero = d' at h ⊢
  revert a b c d a' b' c' d'
  decide

theorem magnitude_of_isNaN {x : Binary64} (h : x.isNaN) :
    x.magnitude.val = infiniteMagnitude + x.payload := by
  have hlt : x.magnitude.val < 2 ^ 63 := x.magnitude.isLt
  rw [isNaN, decide_eq_true_iff] at h
  unfold payload infiniteMagnitude at *
  omega

/-- Numbers of one kind are ordered by what tells them apart. -/
theorem content_lt_content {x y : Binary64} (h : x.kind = y.kind) :
    y.content < x.content ↔ y.rank < x.rank := by
  obtain ⟨hsign, hnan, hinfinite⟩ := eq_of_kind_eq h
  have hx : x.magnitude.val < 2 ^ 63 := x.magnitude.isLt
  have hy : y.magnitude.val < 2 ^ 63 := y.magnitude.isLt
  unfold content rank
  rw [← hsign, ← hnan]
  by_cases hxnan : x.isNaN
  · rw [if_pos hxnan, if_pos hxnan]
    have hxm := magnitude_of_isNaN hxnan
    have hym := magnitude_of_isNaN (hnan ▸ hxnan)
    cases x.negative
    · simp only [Bool.false_eq_true, if_false]
      omega
    · simp only [if_true]
      omega
  rw [if_neg hxnan, if_neg hxnan, ← hinfinite (Bool.eq_false_iff.2 hxnan)]
  by_cases hxinf : x.isInfinite
  · rw [if_pos hxinf, if_pos hxinf]
    have hyinf := hinfinite (Bool.eq_false_iff.2 hxnan) ▸ hxinf
    rw [isInfinite, beq_iff_eq] at hxinf hyinf
    rw [hxinf, hyinf]
    simp only [lt_irrefl]
  · rw [if_neg hxinf, if_neg hxinf]
    unfold signedUnits units
    rw [← hsign]
    cases x.negative
    · simp only [Bool.false_eq_true, if_false]
      rw [Int.ofNat_lt, unitsOf_lt_unitsOf]
      omega
    · simp only [if_true]
      rw [Int.neg_lt_neg_iff, Int.ofNat_lt, unitsOf_lt_unitsOf]
      omega

/-- The total order goes by kinds and by what tells numbers of one kind apart. -/
theorem totalOrder_eq_lt_iff {x y : Binary64} : totalOrder y x = .lt ↔ Above x y := by
  rw [totalOrder, Nat.compare_eq_lt, Above]
  have hx := depth_kind x
  have hy := depth_kind y
  unfold infiniteMagnitude at hx hy
  rcases Nat.lt_trichotomy x.kind.depth y.kind.depth with hlt | heq | hgt
  · exact iff_of_true (by omega) (.inl hlt)
  · have hkind := Kind.depth_injective heq
    rw [← content_lt_content hkind, heq]
    simp only [lt_irrefl, false_or, hkind, true_and]
  · refine iff_of_false (by omega) ?_
    rintro (hlt | ⟨hkind, -⟩)
    · omega
    · rw [hkind] at hgt
      exact lt_irrefl _ hgt

example : Above (.nan false) (.infinity false) ∧ Above (.zero false) (.zero true) ∧
    Above (.infinity true) (.nan true) := by
  decide +kernel

/-! ## Bits -/

/-- The bits of a number, all but the sign turned round if it is negative. -/
def turned (x : Binary64) : BitVec 64 :=
  let bits := BitVec.ofNat 64 x.toBits
  bits ^^^ (bits.sshiftRight 63 >>> 1)

theorem toBits_lt (x : Binary64) : x.toBits < 2 ^ 64 := by
  have hlt : x.magnitude.val < 2 ^ 63 := x.magnitude.isLt
  unfold toBits
  split <;> omega

/-- Numbers with the same bits are the same. -/
theorem toBits_injective {x y : Binary64} (h : x.toBits = y.toBits) : x = y := by
  obtain ⟨xn, xm, hx⟩ := x
  obtain ⟨yn, ym, hy⟩ := y
  cases xn <;> cases yn <;> simp [toBits] at h ⊢ <;> omega

theorem toNat_sshiftRight_ushiftRight (b : BitVec 64) :
    (b.sshiftRight 63 >>> 1).toNat = if 2 ^ 63 ≤ b.toNat then 2 ^ 63 - 1 else 0 := by
  have hlt := b.isLt
  by_cases h : 2 ^ 63 ≤ b.toNat
  · have hmsb : b.msb = true := by
      rw [BitVec.msb_eq_decide, decide_eq_true_iff]
      exact h
    rw [if_pos h, BitVec.sshiftRight_eq_of_msb_true hmsb, BitVec.toNat_ushiftRight, BitVec.toNat_not,
      BitVec.toNat_ushiftRight, BitVec.toNat_not, Nat.shiftRight_eq_div_pow,
      Nat.shiftRight_eq_div_pow]
    omega
  · have hmsb : b.msb = false := by
      rw [BitVec.msb_eq_decide, decide_eq_false_iff_not]
      exact h
    rw [if_neg h, BitVec.sshiftRight_eq_of_msb_false hmsb, BitVec.toNat_ushiftRight,
      BitVec.toNat_ushiftRight, Nat.shiftRight_eq_div_pow, Nat.shiftRight_eq_div_pow]
    omega

/-- A number below a power of two, with its bits turned round. -/
theorem xor_two_pow_sub_one {m k : Nat} (h : m < 2 ^ k) : m ^^^ (2 ^ k - 1) = 2 ^ k - 1 - m := by
  have hnot := BitVec.toNat_not (x := BitVec.ofNat k m)
  rwa [← BitVec.xor_allOnes, BitVec.toNat_xor, BitVec.toNat_allOnes, BitVec.toNat_ofNat,
    Nat.mod_eq_of_lt h] at hnot

theorem toNat_turned (x : Binary64) :
    x.turned.toNat = if x.negative then 2 ^ 64 - 1 - x.magnitude.val else x.magnitude.val := by
  have hlt : x.magnitude.val < 2 ^ 63 := x.magnitude.isLt
  simp only [turned]
  rw [BitVec.toNat_xor, toNat_sshiftRight_ushiftRight, BitVec.toNat_ofNat,
    Nat.mod_eq_of_lt x.toBits_lt, toBits]
  cases x.negative
  · rw [if_neg (by simp), Nat.zero_add, if_neg (by omega), if_neg (by simp), Nat.xor_zero]
  · rw [if_pos rfl, if_pos (by omega), if_pos rfl]
    generalize x.magnitude.val = m at hlt ⊢
    -- the sign bit stays, the others are turned round
    have hhigh : ((2 ^ 63 + m) ^^^ (2 ^ 63 - 1)) / 2 ^ 63 = 1 := by
      rw [Nat.xor_div_two_pow, Nat.div_eq_of_lt (a := 2 ^ 63 - 1) (by decide), Nat.xor_zero]
      omega
    have hlow : ((2 ^ 63 + m) ^^^ (2 ^ 63 - 1)) % 2 ^ 63 = 2 ^ 63 - 1 - m := by
      rw [Nat.xor_mod_two_pow, Nat.add_mod_left, Nat.mod_eq_of_lt hlt,
        Nat.mod_eq_of_lt (a := 2 ^ 63 - 1) (by decide), xor_two_pow_sub_one hlt]
    omega

theorem toInt_turned (x : Binary64) : x.turned.toInt = x.rank - 2 ^ 63 := by
  have hlt : x.magnitude.val < 2 ^ 63 := x.magnitude.isLt
  rw [BitVec.toInt_eq_toNat_cond, toNat_turned, rank]
  cases x.negative
  · simp only [Bool.false_eq_true, if_false]
    rw [if_pos (by omega)]
    omega
  · simp only [if_true]
    rw [if_neg (by omega)]
    omega

/-- The total order is that of the turned bits, read as integers with a sign. -/
theorem totalOrder_eq_compare_turned (x y : Binary64) :
    totalOrder x y = compare x.turned.toInt y.turned.toInt := by
  rw [toInt_turned, toInt_turned, totalOrder]
  rcases Nat.lt_trichotomy x.rank y.rank with hlt | heq | hgt
  · rw [Nat.compare_eq_lt.2 hlt, Int.compare_eq_lt.2 (by omega)]
  · rw [heq, Nat.compare_eq_eq.2 rfl, Int.compare_eq_eq.2 rfl]
  · rw [Nat.compare_eq_gt.2 hgt, Int.compare_eq_gt.2 (by omega)]

end SimilarItems.Binary64
