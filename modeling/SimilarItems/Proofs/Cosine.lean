import SimilarItems.Cosine
import SimilarItems.Proofs.Binary64.Bounds

/-!
# When a cosine is a number

The cosine of finite vectors is finite exactly if a norm is zero or the dot product does not overflow
on the way. Norms that overflow do no harm, and neither do norms that lose all their digits: the
larger components bound the dot product, however many there are, by what the norms are worth.
-/

namespace SimilarItems

namespace Binary64

/-! ## Sums -/

variable {z : Binary64} {terms : List Binary64}

theorem isFinite_of_foldl_add (h : (terms.foldl (· + ·) z).isFinite) : z.isFinite := by
  induction terms generalizing z with
  | nil => exact h
  | cons t terms ih => exact (isFinite_of_add (ih h)).1

/-- Terms below a power of two make no sum above one that is larger by 54 bits, because from there on
they do not count. -/
theorem units_foldl_add_le {j : Nat} (h : (terms.foldl (· + ·) z).isFinite)
    (hz : z.units ≤ 2 ^ (j + 54)) (hterms : ∀ t ∈ terms, t.isFinite → t.units ≤ 2 ^ j) :
    (terms.foldl (· + ·) z).units ≤ 2 ^ (j + 54) := by
  induction terms generalizing z with
  | nil => exact hz
  | cons t terms ih =>
    rw [List.forall_mem_cons] at hterms
    have hsum : (z + t).isFinite := isFinite_of_foldl_add h
    exact ih h (units_add_le hsum hz (hterms.1 (isFinite_of_add hsum).2)) hterms.2

theorem nonnegative_foldl_add (hz : z.Nonnegative) (hterms : ∀ t ∈ terms, t.Nonnegative) :
    (terms.foldl (· + ·) z).Nonnegative := by
  induction terms generalizing z with
  | nil => exact hz
  | cons t terms ih =>
    rw [List.forall_mem_cons] at hterms
    exact ih (hz.add hterms.1) hterms.2

theorem atLeast_foldl_add {k : Nat} (hz : z.Nonnegative) (hterms : ∀ t ∈ terms, t.Nonnegative)
    (h : AtLeast k z ∨ ∃ t ∈ terms, AtLeast k t) : AtLeast k (terms.foldl (· + ·) z) := by
  induction terms generalizing z with
  | nil =>
    rcases h with h | ⟨t, ht, -⟩
    · exact h
    · cases ht
  | cons t terms ih =>
    rw [List.forall_mem_cons] at hterms
    refine ih (hz.add hterms.1) hterms.2 ?_
    rcases h with h | ⟨u, hu, h⟩
    · exact .inl (.add hz hterms.1 (.inl h.le_units))
    · rcases List.mem_cons.1 hu with rfl | hu
      · exact .inl (.add hz hterms.1 (.inr h.le_units))
      · exact .inr ⟨u, hu, h⟩

theorem atLeast_of_not_isZero (hz : z.Nonnegative) (h : z.isZero = false) : AtLeast 0 z := by
  refine ⟨hz, fun _ => ?_⟩
  rw [Bool.eq_false_iff, Ne, isZero_iff] at h
  exact Nat.pos_of_ne_zero h

/-! ## The size of a vector -/

/-- The sum of the squares of a vector. -/
def squares (v : List Binary64) : Binary64 := (v.map fun x => x * x).foldl (· + ·) (.zero false)

/-- A power of two that bounds the components of a vector. Its exponent is the least one whose square
is a unit, or else a component reaches it. -/
structure Exponent (v : List Binary64) (p : Nat) : Prop where
  unit_le : 537 ≤ p
  units_le : ∀ x ∈ v, x.units ≤ 2 ^ (p + 1)
  reached : p = 537 ∨ ∃ x ∈ v, 2 ^ p ≤ x.units

theorem exists_exponent (v : List Binary64) : ∃ p, Exponent v p := by
  induction v with
  | nil => exact ⟨537, le_rfl, List.forall_mem_nil _, .inl rfl⟩
  | cons x v ih =>
    obtain ⟨p, hp⟩ := ih
    by_cases hx : x.units ≤ 2 ^ (p + 1)
    · refine ⟨p, hp.unit_le, List.forall_mem_cons.2 ⟨hx, hp.units_le⟩, ?_⟩
      rcases hp.reached with h | ⟨y, hy, h⟩
      · exact .inl h
      · exact .inr ⟨y, List.mem_cons_of_mem x hy, h⟩
    · have hlog : p + 1 ≤ Nat.log2 x.units := by
        have := log2_mono (Nat.le_of_not_le hx)
        rwa [Nat.log2_two_pow] at this
      have hne : x.units ≠ 0 := fun hzero => hx (hzero ▸ Nat.zero_le _)
      refine ⟨Nat.log2 x.units, ?_, List.forall_mem_cons.2 ⟨Nat.lt_log2_self.le, ?_⟩,
        .inr ⟨x, List.mem_cons_self, Nat.log2_self_le hne⟩⟩
      · have := hp.unit_le
        omega
      · intro y hy
        exact (hp.units_le y hy).trans (Nat.pow_le_pow_right (by decide) (by omega))

variable {v : List Binary64} {p : Nat}

theorem nonnegative_of_mem_squares (hv : ∀ x ∈ v, x.isFinite) :
    ∀ t ∈ v.map fun x => x * x, t.Nonnegative := by
  intro t ht
  obtain ⟨x, hx, rfl⟩ := List.mem_map.1 ht
  exact nonnegative_mul_self (hv x hx)

theorem nonnegative_zero : (zero false).Nonnegative := ⟨rfl, by decide⟩

/-- A norm that is not zero is worth the largest component. -/
theorem atLeast_sqrt_squares (hv : ∀ x ∈ v, x.isFinite) (hp : Exponent v p)
    (h : (squares v).isZero = false) : AtLeast p (squares v).sqrt := by
  have hterms := nonnegative_of_mem_squares hv
  have hunit := hp.unit_le
  have hsquares : AtLeast (2 * p - 1074) (squares v) := by
    rcases hp.reached with rfl | ⟨x, hx, hreached⟩
    · exact atLeast_of_not_isZero (nonnegative_foldl_add nonnegative_zero hterms) h
    · refine atLeast_foldl_add nonnegative_zero hterms (.inr ⟨x * x, ?_, ?_⟩)
      · exact List.mem_map_of_mem hx
      · exact atLeast_mul_self (hv x hx) hreached (by omega)
  exact hsquares.sqrt (by omega)

end Binary64

/-! ## Cosines -/

namespace CosineSums

open Binary64

/-- A norm is zero, or the dot product has not overflowed. -/
def Bounded (s : CosineSums) : Prop := s.left.isZero ∨ s.right.isZero ∨ s.dot.isFinite

instance (s : CosineSums) : Decidable s.Bounded :=
  inferInstanceAs (Decidable (s.left.isZero ∨ s.right.isZero ∨ s.dot.isFinite))

theorem foldl_add (pairs : List (Binary64 × Binary64)) (s : CosineSums) :
    pairs.foldl add s =
      ⟨(pairs.map fun p => p.1 * p.2).foldl (· + ·) s.dot,
        (pairs.map fun p => p.1 * p.1).foldl (· + ·) s.left,
        (pairs.map fun p => p.2 * p.2).foldl (· + ·) s.right⟩ := by
  induction pairs generalizing s with
  | nil => rfl
  | cons p pairs ih =>
    rw [List.foldl_cons, ih]
    rfl

variable {a b : List Binary64}

theorem ofVectors_eq (a b : List Binary64) : ofVectors a b =
    ⟨((a.zip b).map fun p => p.1 * p.2).foldl (· + ·) (.zero false),
      squares ((a.zip b).map Prod.fst), squares ((a.zip b).map Prod.snd)⟩ := by
  rw [ofVectors, foldl_add, squares, squares, List.map_map, List.map_map]
  rfl

theorem isFinite_of_mem_zip (ha : ∀ x ∈ a, x.isFinite) (hb : ∀ x ∈ b, x.isFinite) :
    (∀ x ∈ (a.zip b).map Prod.fst, x.isFinite) ∧ ∀ x ∈ (a.zip b).map Prod.snd, x.isFinite := by
  constructor
  · intro x hx
    obtain ⟨p, hp, rfl⟩ := List.mem_map.1 hx
    exact ha _ (List.of_mem_zip hp).1
  · intro x hx
    obtain ⟨p, hp, rfl⟩ := List.mem_map.1 hx
    exact hb _ (List.of_mem_zip hp).2

/-- The dot product of finite vectors is no larger than their largest components and the number of
bits of a significand allow. -/
theorem units_dot_le {p q j : Nat} (ha : ∀ x ∈ a, x.isFinite) (hb : ∀ x ∈ b, x.isFinite)
    (hp : Exponent ((a.zip b).map Prod.fst) p) (hq : Exponent ((a.zip b).map Prod.snd) q)
    (hj : p + 1 + (q + 1) = j + 1074) (h : (ofVectors a b).dot.isFinite) :
    (ofVectors a b).dot.units ≤ 2 ^ (j + 54) := by
  rw [ofVectors_eq] at h ⊢
  refine units_foldl_add_le h (Nat.zero_le _) fun t ht _ => ?_
  obtain ⟨pair, hpair, rfl⟩ := List.mem_map.1 ht
  obtain ⟨hx, hy⟩ := List.of_mem_zip hpair
  exact units_mul_le (ha _ hx) (hb _ hy) (hp.units_le _ (List.mem_map_of_mem hpair))
    (hq.units_le _ (List.mem_map_of_mem hpair)) hj

end CosineSums

open Binary64 in
/-- The cosine of finite vectors is finite exactly if their sums are bounded. -/
theorem isFinite_cosine_iff {a b : List Binary64} (ha : ∀ x ∈ a, x.isFinite)
    (hb : ∀ x ∈ b, x.isFinite) :
    (cosine a b).isFinite ↔ (CosineSums.ofVectors a b).Bounded := by
  rw [cosine, CosineSums.cosine, CosineSums.Bounded]
  by_cases hzero : (CosineSums.ofVectors a b).left.isZero || (CosineSums.ofVectors a b).right.isZero
  · rw [if_pos hzero, ← or_assoc, ← Bool.or_eq_true]
    exact ⟨fun _ => .inl hzero, fun _ => isFinite_zero _⟩
  · rw [if_neg hzero]
    rw [Bool.not_eq_true, Bool.or_eq_false_iff] at hzero
    simp only [hzero.1, hzero.2, Bool.false_eq_true, false_or]
    constructor
    · exact isFinite_of_div
    · intro hdot
      obtain ⟨hleft, hright⟩ := CosineSums.isFinite_of_mem_zip ha hb
      obtain ⟨p, hp⟩ := exists_exponent ((a.zip b).map Prod.fst)
      obtain ⟨q, hq⟩ := exists_exponent ((a.zip b).map Prod.snd)
      obtain ⟨k, hk⟩ : ∃ k, k + 1074 = p + q := by
        have := hp.unit_le
        have := hq.unit_le
        exact ⟨p + q - 1074, by omega⟩
      have hle := CosineSums.units_dot_le ha hb hp hq (j := k + 2) (by omega) hdot
      rw [CosineSums.ofVectors_eq] at hzero hdot hle ⊢
      have hnorms := (atLeast_sqrt_squares hleft hp hzero.1).mul
        (atLeast_sqrt_squares hright hq hzero.2) hk
      exact isFinite_of_units_le (units_div_le hdot hle hnorms (l := 1130) (by omega)) (by decide)

end SimilarItems
