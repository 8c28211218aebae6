import Mathlib.Tactic.NormNum
import SimilarItems.Decimal.Shortest
import SimilarItems.Proofs.Binary64.Nearest
import SimilarItems.Proofs.Decimal.Digits

/-!
# Every magnitude has a shortest decimal

Seventeen digits always suffice: the points of a grid of seventeen digits are closer to each other
than a magnitude is to its neighbours. So the shortest decimal of a positive magnitude is a positive
number of at most seventeen digits, or a one with zeros, that reads back as the magnitude.
-/

namespace SimilarItems.Decimal

theorem size_eq_length (n : Nat) : size n = (Digits.ofNat n).length := by
  induction n using Nat.strong_induction_on with
  | _ n ih =>
    rw [size, Digits.ofNat]
    by_cases h : n < 10
    · rw [if_pos h, dif_pos h, List.length_singleton]
    · rw [if_neg h, dif_neg h, ih (n / 10) (by omega), List.length_append, List.length_singleton]

theorem pow_size_le {n : Nat} (hn : n ≠ 0) : 10 ^ (size n - 1) ≤ n := by
  rw [size_eq_length]
  exact Digits.pow_le_of_ofNat hn

theorem lt_pow_size (n : Nat) : n < 10 ^ size n := by
  have := Digits.value_lt_pow (Digits.ofNat n)
  rwa [Digits.value_ofNat, ← size_eq_length] at this

theorem size_pos (n : Nat) : 0 < size n := by
  rw [size]
  split <;> omega

/-- The size of a positive number of units, scaled so that it has a whole part. -/
def scaledSize (u : Nat) : Nat := size (u * 10 ^ 324 / Binary64.unitsPerOne)

theorem leadingExponent_eq (u : Nat) : leadingExponent u = (scaledSize u : Int) - 325 := by
  simp only [leadingExponent, scaledSize]
  generalize size _ = n
  omega

theorem unitsPerOne_le : Binary64.unitsPerOne ≤ 10 ^ 324 := by decide +kernel

theorem pow_scaledSize_le {u : Nat} (hu : 0 < u) :
    10 ^ scaledSize u * Binary64.unitsPerOne ≤ u * 10 ^ 325 := by
  have hpos : u * 10 ^ 324 / Binary64.unitsPerOne ≠ 0 := by
    refine (Nat.div_pos ?_ Binary64.unitsPerOne_pos).ne'
    exact unitsPerOne_le.trans (Nat.le_mul_of_pos_left _ hu)
  have hle := Nat.mul_le_mul_right Binary64.unitsPerOne (pow_size_le hpos)
  have hdiv := Nat.div_mul_le_self (u * 10 ^ 324) Binary64.unitsPerOne
  have hsize : scaledSize u = (scaledSize u - 1) + 1 := by
    have := size_pos (u * 10 ^ 324 / Binary64.unitsPerOne)
    rw [scaledSize]
    omega
  calc 10 ^ scaledSize u * Binary64.unitsPerOne
      = 10 * (10 ^ (scaledSize u - 1) * Binary64.unitsPerOne) := by
        conv_lhs => rw [hsize, pow_succ]
        ring
    _ ≤ 10 * (u * 10 ^ 324) := Nat.mul_le_mul_left 10 (hle.trans hdiv)
    _ = u * 10 ^ 325 := by rw [pow_succ 10 324, mul_comm, mul_assoc]

theorem lt_pow_scaledSize (u : Nat) :
    u * 10 ^ 324 < 10 ^ scaledSize u * Binary64.unitsPerOne := by
  exact (Nat.div_lt_iff_lt_mul Binary64.unitsPerOne_pos).1 (lt_pow_size _)

/-! ## Grids -/

namespace Grid

variable {g : Grid} {m : Nat}

theorem numScale_pos (g : Grid) : 0 < g.numScale := Nat.pow_pos (by decide)

theorem denScale_pos (g : Grid) : 0 < g.denScale :=
  Nat.mul_pos Binary64.unitsPerOne_pos (Nat.pow_pos (by decide))

/-- A point closer to a magnitude than half the distance to its neighbours reads back as it. -/
theorem readsBack_of_lt {c : Nat}
    (hbelow : (Binary64.unitsOf (m - 1) + Binary64.unitsOf m) * g.numScale < 2 * c * g.denScale)
    (habove : 2 * c * g.denScale < (Binary64.unitsOf m + Binary64.unitsOf (m + 1)) * g.numScale) :
    g.readsBack m c := by
  simp only [readsBack]
  split
  · rw [Bool.and_eq_true, decide_eq_true_iff, decide_eq_true_iff]
    exact ⟨hbelow.le, habove.le⟩
  · rw [Bool.and_eq_true, decide_eq_true_iff, decide_eq_true_iff]
    exact ⟨hbelow, habove⟩

/-- A point that reads back as a magnitude lies between the midpoints to its neighbours. -/
theorem encloses_of_readsBack {c : Nat} (h : g.readsBack m c) :
    Binary64.Encloses (c * g.denScale) g.numScale m := by
  have hbelow : (Binary64.unitsOf (m - 1) + Binary64.unitsOf m) * g.numScale =
      g.numScale * (Binary64.unitsOf (m - 1) + Binary64.unitsOf m) := Nat.mul_comm _ _
  have habove : (Binary64.unitsOf m + Binary64.unitsOf (m + 1)) * g.numScale =
      g.numScale * (Binary64.unitsOf m + Binary64.unitsOf (m + 1)) := Nat.mul_comm _ _
  simp only [readsBack, hbelow, habove, Nat.mul_assoc 2 c] at h
  split at h
  · rename_i heven
    rw [Bool.and_eq_true, decide_eq_true_iff, decide_eq_true_iff] at h
    exact ⟨h.1, h.2, fun hodd => by omega, fun hodd => by omega⟩
  · rw [Bool.and_eq_true, decide_eq_true_iff, decide_eq_true_iff] at h
    exact ⟨h.1.le, h.2.le, fun _ => h.1, fun _ => h.2⟩

theorem pos_of_readsBack {c : Nat} (hm : 0 < m) (h : g.readsBack m c) : 0 < c := by
  by_contra hc
  have hle := (encloses_of_readsBack h).below
  have hpos : 0 < g.numScale * (Binary64.unitsOf (m - 1) + Binary64.unitsOf m) :=
    Nat.mul_pos g.numScale_pos (Nat.add_pos_right _ (Binary64.unitsOf_pos hm))
  rw [Nat.eq_zero_of_not_pos hc] at hle
  omega

/-- The point that is chosen reads back, and is one of the two around the magnitude. -/
theorem pointFor?_eq_some {c : Nat} (h : g.pointFor? m = some c) :
    g.readsBack m c ∧ c ≤ Binary64.unitsOf m * g.numScale / g.denScale + 1 := by
  simp only [pointFor?] at h
  have hle := le_roundHalfEven (Binary64.unitsOf m * g.numScale) g.denScale
  have hle' := roundHalfEven_le (Binary64.unitsOf m * g.numScale) g.denScale
  generalize roundHalfEven (Binary64.unitsOf m * g.numScale) g.denScale = r at h hle hle'
  generalize Binary64.unitsOf m * g.numScale / g.denScale = floor at h hle hle' ⊢
  split at h
  · rename_i hfloor hnext
    cases h
    refine ⟨?_, hle'⟩
    rcases Nat.lt_or_eq_of_le hle with hlt | heq
    · exact Nat.le_antisymm hle' hlt ▸ hnext
    · exact heq ▸ hfloor
  · rename_i hfloor _
    cases h
    exact ⟨hfloor, Nat.le_succ _⟩
  · rename_i _ hnext
    cases h
    exact ⟨hnext, le_rfl⟩
  · cases h

/-- On a grid whose points are closer to each other than the magnitude is to its neighbours, one of
the two points around it reads back. -/
theorem exists_pointFor?
    (hdown : g.denScale < (Binary64.unitsOf m - Binary64.unitsOf (m - 1)) * g.numScale)
    (hup : g.denScale < (Binary64.unitsOf (m + 1) - Binary64.unitsOf m) * g.numScale) :
    ∃ c, g.pointFor? m = some c := by
  have hmono₁ := Binary64.unitsOf_mono (Nat.sub_le m 1)
  have hmono₂ := Binary64.unitsOf_mono (Nat.le_succ m)
  rw [Nat.sub_mul] at hdown hup
  have hle₁ := Nat.mul_le_mul_right g.numScale hmono₁
  have hle₂ := Nat.mul_le_mul_right g.numScale hmono₂
  have hdiv := Nat.div_add_mod (Binary64.unitsOf m * g.numScale) g.denScale
  have hmod := Nat.mod_lt (Binary64.unitsOf m * g.numScale) g.denScale_pos
  have hreads : g.readsBack m (Binary64.unitsOf m * g.numScale / g.denScale) ∨
      g.readsBack m (Binary64.unitsOf m * g.numScale / g.denScale + 1) := by
    have hfloor : 2 * (Binary64.unitsOf m * g.numScale / g.denScale) * g.denScale =
        2 * (g.denScale * (Binary64.unitsOf m * g.numScale / g.denScale)) := by ring
    have hnext : 2 * (Binary64.unitsOf m * g.numScale / g.denScale + 1) * g.denScale =
        2 * (g.denScale * (Binary64.unitsOf m * g.numScale / g.denScale)) + 2 * g.denScale := by
      ring
    rcases Nat.le_total (2 * (Binary64.unitsOf m * g.numScale % g.denScale)) g.denScale with h | h
    · refine .inl (readsBack_of_lt ?_ ?_)
      · rw [hfloor, Nat.add_mul]
        omega
      · rw [hfloor, Nat.add_mul]
        omega
    · refine .inr (readsBack_of_lt ?_ ?_)
      · rw [hnext, Nat.add_mul]
        omega
      · rw [hnext, Nat.add_mul]
        omega
  simp only [pointFor?]
  split
  · exact ⟨_, rfl⟩
  · exact ⟨_, rfl⟩
  · exact ⟨_, rfl⟩
  · rename_i hfloor hnext
    rcases hreads with h | h
    · rw [hfloor] at h
      cases h
    · rw [hnext] at h
      cases h

theorem scale_eq (k i : Nat) :
    (Grid.mk ((k : Int) - 325 - i)).denScale * 10 ^ (325 + i) =
      Binary64.unitsPerOne * 10 ^ k * (Grid.mk ((k : Int) - 325 - i)).numScale := by
  simp only [denScale, numScale]
  rw [mul_assoc, mul_assoc, ← pow_add, ← pow_add]
  congr 2
  omega

end Grid

/-! ## The grid of a magnitude -/

/-- The grid with `i` digits after the leading one of a magnitude. -/
def gridOf (m i : Nat) : Grid := ⟨leadingExponent (Binary64.unitsOf m) - i⟩

variable {m : Nat}

/-- On its grid of `i` digits after the leading one a magnitude stands below `10 ^ (i + 1)`. -/
theorem div_lt_pow (m i : Nat) :
    Binary64.unitsOf m * (gridOf m i).numScale / (gridOf m i).denScale < 10 ^ (i + 1) := by
  rw [Nat.div_lt_iff_lt_mul (Grid.denScale_pos _)]
  have hlt := lt_pow_scaledSize (Binary64.unitsOf m)
  have hscale := Grid.scale_eq (scaledSize (Binary64.unitsOf m)) i
  rw [← leadingExponent_eq] at hscale
  change (gridOf m i).denScale * _ = _ * (gridOf m i).numScale at hscale
  generalize (gridOf m i).denScale = den at hscale ⊢
  have hnum := Grid.numScale_pos (gridOf m i)
  generalize (gridOf m i).numScale = num at hscale hnum ⊢
  generalize scaledSize (Binary64.unitsOf m) = k at hlt hscale
  refine Nat.lt_of_mul_lt_mul_right (a := 10 ^ 324) ?_
  calc Binary64.unitsOf m * num * 10 ^ 324
      = Binary64.unitsOf m * 10 ^ 324 * num := Nat.mul_right_comm _ _ _
    _ < 10 ^ k * Binary64.unitsPerOne * num := Nat.mul_lt_mul_of_pos_right hlt hnum
    _ = den * 10 ^ (325 + i) := by rw [hscale, Nat.mul_comm (10 ^ k)]
    _ = 10 ^ (i + 1) * den * 10 ^ 324 := by
        rw [Nat.mul_right_comm, ← pow_add, Nat.mul_comm]
        congr 2
        omega

/-- Seventeen digits suffice. -/
theorem exists_pointFor?_gridOf (hm : 0 < m) : ∃ c, (gridOf m 16).pointFor? m = some c := by
  have hle := pow_scaledSize_le (Binary64.unitsOf_pos hm)
  have hscale := Grid.scale_eq (scaledSize (Binary64.unitsOf m)) 16
  rw [← leadingExponent_eq] at hscale
  change (gridOf m 16).denScale * _ = _ * (gridOf m 16).numScale at hscale
  have hden : (gridOf m 16).denScale * 10 ^ 16 ≤
      Binary64.unitsOf m * (gridOf m 16).numScale := by
    generalize (gridOf m 16).denScale = den at hscale ⊢
    generalize (gridOf m 16).numScale = num at hscale ⊢
    generalize scaledSize (Binary64.unitsOf m) = k at hle hscale
    refine Nat.le_of_mul_le_mul_right (c := 10 ^ 325) ?_ (Nat.pow_pos (by decide))
    calc den * 10 ^ 16 * 10 ^ 325 = den * 10 ^ (325 + 16) := by
          rw [Nat.mul_assoc, ← pow_add, Nat.add_comm]
      _ = 10 ^ k * Binary64.unitsPerOne * num := by rw [hscale, Nat.mul_comm (10 ^ k)]
      _ ≤ Binary64.unitsOf m * 10 ^ 325 * num := Nat.mul_le_mul_right num hle
      _ = Binary64.unitsOf m * num * 10 ^ 325 := Nat.mul_right_comm _ _ _
  -- The magnitude is worth less than `10 ^ 16` times either distance.
  have hgap {gap : Nat} (h : Binary64.unitsOf m ≤ 2 ^ 53 * gap) (hpos : 0 < gap) :
      (gridOf m 16).denScale < gap * (gridOf m 16).numScale := by
    have hnum := Grid.numScale_pos (gridOf m 16)
    generalize (gridOf m 16).denScale = den at hden ⊢
    generalize (gridOf m 16).numScale = num at hden hnum ⊢
    refine Nat.lt_of_mul_lt_mul_right (a := 10 ^ 16) (hden.trans_lt ?_)
    calc Binary64.unitsOf m * num ≤ 2 ^ 53 * gap * num := Nat.mul_le_mul_right num h
      _ = 2 ^ 53 * (gap * num) := Nat.mul_assoc _ _ _
      _ < 10 ^ 16 * (gap * num) := Nat.mul_lt_mul_of_pos_right (by decide) (Nat.mul_pos hpos hnum)
      _ = gap * num * 10 ^ 16 := Nat.mul_comm _ _
  refine Grid.exists_pointFor? ?_ ?_
  · obtain ⟨m', rfl⟩ := Nat.exists_eq_add_one.2 hm
    refine hgap ?_ ?_
    · rw [Nat.add_sub_cancel, Binary64.unitsOf_succ, Nat.add_sub_cancel_left,
        ← Binary64.unitsOf_succ]
      exact Binary64.unitsOf_succ_le m'
    · rw [Nat.add_sub_cancel, Binary64.unitsOf_succ, Nat.add_sub_cancel_left]
      exact Nat.pow_pos (by decide)
  · refine hgap ?_ ?_
    · rw [Binary64.unitsOf_succ, Nat.add_sub_cancel_left]
      exact (Binary64.unitsOf_mono (Nat.le_succ m)).trans (Binary64.unitsOf_succ_le m)
    · rw [Binary64.unitsOf_succ, Nat.add_sub_cancel_left]
      exact Nat.pow_pos (by decide)

/-- The shortest decimal of a positive magnitude is a point of one of its grids that reads back as
it. -/
theorem shortest_spec (hm : 0 < m) :
    ∃ i c, i < 17 ∧ shortest m = ⟨c, (gridOf m i).exponent⟩ ∧ (gridOf m i).readsBack m c ∧
      0 < c ∧ c ≤ 10 ^ 17 := by
  have hsome : (shortestFrom (leadingExponent (Binary64.unitsOf m)) m).isSome := by
    rw [shortestFrom, List.findSome?_isSome_iff]
    obtain ⟨c, hc⟩ := exists_pointFor?_gridOf hm
    refine ⟨16, List.mem_range.2 (by decide), ?_⟩
    rw [gridOf] at hc
    rw [Option.isSome_map, hc]
    rfl
  obtain ⟨d, hd⟩ := Option.isSome_iff_exists.1 hsome
  have hshortest : shortest m = d := by rw [shortest, hd, Option.getD_some]
  obtain ⟨i, hi, hpoint⟩ := List.exists_of_findSome?_eq_some hd
  obtain ⟨c, hc, rfl⟩ := Option.map_eq_some_iff.1 hpoint
  obtain ⟨hreads, hle⟩ := Grid.pointFor?_eq_some hc
  have hi := List.mem_range.1 hi
  refine ⟨i, c, hi, hshortest, hreads, Grid.pos_of_readsBack hm hreads, ?_⟩
  refine (hle.trans (div_lt_pow m i)).trans ?_
  exact Nat.pow_le_pow_right (by decide) (by omega)

end SimilarItems.Decimal
