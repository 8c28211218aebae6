import Mathlib.Algebra.Order.Ring.Nat
import Mathlib.Data.List.Basic
import Mathlib.Data.List.TakeWhile
import Mathlib.Tactic.Ring
import SimilarItems.Decimal.Digits

/-!
# Facts about decimal digits

The number that digits stand for, and the digits of a number, with zeros in front of them or at
their end.
-/

namespace SimilarItems

theorem Digit.ofChar?_toChar (d : Digit) : ofChar? d.toChar = some d := by
  revert d
  decide

theorem Digit.toChar_of_ofChar? {c : Char} {d : Digit} (h : ofChar? c = some d) : d.toChar = c := by
  unfold ofChar? at h
  split at h
  · next hc =>
    cases h
    rw [toChar, Nat.add_sub_cancel' hc.1, Char.ofNat_toNat]
  · cases h

theorem Digit.toChar_ne_minus (d : Digit) : d.toChar ≠ '-' := by
  revert d
  decide

theorem Digit.toChar_ne_plus (d : Digit) : d.toChar ≠ '+' := by
  revert d
  decide

namespace Digits

/-- Digits are read up to the first character that is none. -/
theorem span_chars_append (ds : List Digit) {rest : List Char}
    (h : ∀ c ∈ rest.head?, Digit.ofChar? c = none) : span (chars ds ++ rest) = (ds, rest) := by
  induction ds with
  | nil =>
    cases rest with
    | nil => rfl
    | cons c rest =>
      have hc : Digit.ofChar? c = none := h c rfl
      simp only [chars, List.map_nil, List.nil_append, span, hc]
  | cons d ds ih =>
    have hcons : chars (d :: ds) ++ rest = d.toChar :: (chars ds ++ rest) := rfl
    rw [hcons, span, Digit.ofChar?_toChar, ih]

/-- Reading digits loses no character. -/
theorem chars_span_append (cs : List Char) : chars (span cs).1 ++ (span cs).2 = cs := by
  induction cs with
  | nil => rfl
  | cons c cs ih =>
    rw [span]
    split
    · next d hd =>
      rw [← Digit.toChar_of_ofChar? hd]
      exact congrArg (d.toChar :: ·) ih
    · rfl

/-! ## Values -/

theorem valueFrom_eq (start : Nat) (ds : List Digit) :
    valueFrom start ds = start * 10 ^ ds.length + value ds := by
  induction ds generalizing start with
  | nil => simp [valueFrom, value]
  | cons d ds ih =>
    have hstart : valueFrom start (d :: ds) = valueFrom (10 * start + d.val) ds := rfl
    have hzero : value (d :: ds) = valueFrom (10 * 0 + d.val) ds := rfl
    rw [hstart, hzero, ih, ih (10 * 0 + d.val), List.length_cons, pow_succ]
    ring

theorem le_valueFrom (start : Nat) (ds : List Digit) : start ≤ valueFrom start ds := by
  have hpos : 0 < 10 ^ ds.length := Nat.pow_pos (by decide)
  rw [valueFrom_eq]
  exact (Nat.le_mul_of_pos_right start hpos).trans (Nat.le_add_right _ _)

theorem valueFrom_value (ds₁ ds₂ : List Digit) :
    valueFrom (value ds₁) ds₂ = value (ds₁ ++ ds₂) := List.foldl_append.symm

theorem value_append (ds₁ ds₂ : List Digit) :
    value (ds₁ ++ ds₂) = value ds₁ * 10 ^ ds₂.length + value ds₂ := by
  rw [← valueFrom_value, valueFrom_eq]

theorem value_cons (d : Digit) (ds : List Digit) :
    value (d :: ds) = d.val * 10 ^ ds.length + value ds := by
  have := value_append [d] ds
  simpa [value, valueFrom] using this

theorem value_lt_pow (ds : List Digit) : value ds < 10 ^ ds.length := by
  induction ds with
  | nil => simp [value, valueFrom]
  | cons d ds ih =>
    have hd : d.val ≤ 9 := by omega
    have := Nat.mul_le_mul_right (10 ^ ds.length) hd
    rw [value_cons, List.length_cons, pow_succ]
    omega

theorem value_zeros (k : Nat) : value (List.replicate k 0) = 0 := by
  induction k with
  | zero => rfl
  | succ k ih =>
    rw [List.replicate_succ, value_cons, ih]
    simp

theorem value_zeros_append (k : Nat) (ds : List Digit) :
    value (List.replicate k 0 ++ ds) = value ds := by
  rw [value_append, value_zeros, Nat.zero_mul, Nat.zero_add]

theorem value_append_zeros (k : Nat) (ds : List Digit) :
    value (ds ++ List.replicate k 0) = value ds * 10 ^ k := by
  rw [value_append, value_zeros, List.length_replicate, Nat.add_zero]

/-! ## Digits of a number -/

theorem value_ofNat (n : Nat) : value (ofNat n) = n := by
  induction n using Nat.strong_induction_on with
  | _ n ih =>
    rw [ofNat]
    by_cases h : n < 10
    · rw [dif_pos h]
      simp [value, valueFrom]
    · rw [dif_neg h, value_append, ih (n / 10) (by omega)]
      have hlast : value [(⟨n % 10, Nat.mod_lt _ (by decide)⟩ : Digit)] = n % 10 := by
        simp [value, valueFrom]
      rw [hlast, List.length_singleton]
      omega

theorem ofNat_ne_nil (n : Nat) : ofNat n ≠ [] := by
  rw [ofNat]
  split <;> simp

theorem head?_ofNat_ne {n : Nat} (hn : n ≠ 0) : (ofNat n).head? ≠ some 0 := by
  induction n using Nat.strong_induction_on with
  | _ n ih =>
    rw [ofNat]
    by_cases h : n < 10
    · rw [dif_pos h, List.head?_cons]
      intro heq
      exact hn (congrArg Fin.val (Option.some.inj heq))
    · rw [dif_neg h, List.head?_append_of_ne_nil _ (ofNat_ne_nil _)]
      exact ih (n / 10) (by omega) (by omega)

/-- A number is at least as large as its length tells. -/
theorem pow_le_of_ofNat {n : Nat} (hn : n ≠ 0) : 10 ^ ((ofNat n).length - 1) ≤ n := by
  cases hds : ofNat n with
  | nil => exact absurd hds (ofNat_ne_nil n)
  | cons d ds =>
    have hd : d ≠ 0 := by
      intro heq
      apply head?_ofNat_ne hn
      rw [hds, heq, List.head?_cons]
    have hpos : 1 ≤ d.val := by
      rw [Nat.one_le_iff_ne_zero]
      exact fun heq => hd (Fin.ext heq)
    have hvalue := value_ofNat n
    rw [hds, value_cons] at hvalue
    have := Nat.mul_le_mul_right (10 ^ ds.length) hpos
    rw [List.length_cons, Nat.add_sub_cancel]
    omega

theorem length_ofNat_le {n k : Nat} (hk : k ≠ 0) (hn : n < 10 ^ k) : (ofNat n).length ≤ k := by
  by_cases hz : n = 0
  · subst hz
    rw [ofNat]
    simpa using Nat.one_le_iff_ne_zero.2 hk
  · have hle := (pow_le_of_ofNat hz).trans_lt hn
    have := (Nat.pow_lt_pow_iff_right (by decide)).1 hle
    omega

theorem value_padded (width n : Nat) : value (padded width n) = n := by
  rw [padded, value_zeros_append, value_ofNat]

theorem length_padded {width n : Nat} (hw : width ≠ 0) (hn : n < 10 ^ width) :
    (padded width n).length = width := by
  have := length_ofNat_le hw hn
  simp only [padded, List.length_append, List.length_replicate]
  omega

theorem chars_ofNat (n : Nat) : chars (ofNat n) = Nat.toDigits 10 n := by
  have hdigit : ∀ d : Digit, d.toChar = Nat.digitChar d.val := by decide
  induction n using Nat.strong_induction_on with
  | _ n ih =>
    rw [ofNat, Nat.toDigits_eq_if (by decide)]
    by_cases h : n < 10
    · rw [dif_pos h, if_pos h, chars, List.map_singleton, hdigit]
    · rw [dif_neg h, if_neg h, ← ih (n / 10) (by omega), chars, List.map_append,
        List.map_singleton, hdigit]
      rfl

theorem text_eq_repr (n : Nat) : text n = Nat.repr n := congrArg String.ofList (chars_ofNat n)

/-! ## Zeros at the end -/

/-- Digits are what is left of them when the zeros at their end are dropped, and these zeros. -/
theorem eq_dropTrailingZeros_append (ds : List Digit) :
    ds = dropTrailingZeros ds ++ List.replicate (ds.length - (dropTrailingZeros ds).length) 0 := by
  have hsplit : ds = dropTrailingZeros ds ++ (ds.reverse.takeWhile (· == 0)).reverse := by
    rw [dropTrailingZeros, ← List.reverse_append, List.takeWhile_append_dropWhile,
      List.reverse_reverse]
  have hzeros : (ds.reverse.takeWhile (· == 0)).reverse =
      List.replicate (ds.reverse.takeWhile (· == 0)).length 0 := by
    rw [List.eq_replicate_iff]
    refine ⟨List.length_reverse, fun d hd => ?_⟩
    rw [List.mem_reverse] at hd
    simpa using List.mem_takeWhile_imp hd
  have hlen := congrArg List.length hsplit
  rw [List.length_append, List.length_reverse] at hlen
  rw [show ds.length - (dropTrailingZeros ds).length =
    (ds.reverse.takeWhile (· == 0)).length by omega, ← hzeros]
  exact hsplit

theorem length_dropTrailingZeros_le (ds : List Digit) :
    (dropTrailingZeros ds).length ≤ ds.length := by
  have := congrArg List.length (eq_dropTrailingZeros_append ds)
  rw [List.length_append] at this
  omega

theorem value_eq_dropTrailingZeros (ds : List Digit) :
    value ds =
      value (dropTrailingZeros ds) * 10 ^ (ds.length - (dropTrailingZeros ds).length) := by
  conv_lhs => rw [eq_dropTrailingZeros_append ds]
  rw [value_append_zeros]

/-- Dropping zeros at the end leaves the front of what is worth something. -/
theorem head?_dropTrailingZeros {ds : List Digit} (h : value ds ≠ 0) :
    (dropTrailingZeros ds).head? = ds.head? ∧ dropTrailingZeros ds ≠ [] := by
  have hne : dropTrailingZeros ds ≠ [] := by
    intro hnil
    apply h
    rw [value_eq_dropTrailingZeros, hnil]
    simp [value, valueFrom]
  refine ⟨?_, hne⟩
  conv_rhs => rw [eq_dropTrailingZeros_append ds]
  rw [List.head?_append_of_ne_nil _ hne]

end Digits

end SimilarItems
