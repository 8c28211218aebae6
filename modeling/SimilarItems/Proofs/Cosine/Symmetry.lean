import SimilarItems.Proofs.Binary64.Bounds
import SimilarItems.Cosine

/-!
# Cosines are symmetric

The three sums of a cosine are gathered in one pass over the paired components. Exchanging the vectors
exchanges the two norms, term by term, and the dot product sees each of its products with exchanged
factors. So no law of addition is needed: it suffices that products commute. In binary64 they do, but
for the payload of a NaN, which neither sums nor quotients can turn into anything but a NaN.
-/

namespace SimilarItems

/-! ## Any arithmetic -/

/-- The operations that a cosine is made of. -/
structure Arithmetic (α : Type) where
  zero : α
  add : α → α → α
  mul : α → α → α
  div : α → α → α
  sqrt : α → α
  isZero : α → Bool

namespace Arithmetic

variable {α : Type}

/-- A dot product and two norms. -/
structure Sums (α : Type) where
  dot : α
  left : α
  right : α

/-- The sums with one more pair of components. -/
def push (A : Arithmetic α) (s : Sums α) (p : α × α) : Sums α :=
  ⟨A.add s.dot (A.mul p.1 p.2), A.add s.left (A.mul p.1 p.1), A.add s.right (A.mul p.2 p.2)⟩

/-- The dot product over the product of the norms, and zero if a norm is zero. -/
def ratio (A : Arithmetic α) (s : Sums α) : α :=
  if A.isZero s.left || A.isZero s.right then A.zero
  else A.div s.dot (A.mul (A.sqrt s.left) (A.sqrt s.right))

/-- The cosine of two vectors. -/
def cosine (A : Arithmetic α) (a b : List α) : α :=
  A.ratio ((a.zip b).foldl A.push ⟨A.zero, A.zero, A.zero⟩)

/-- Products commute up to a relation that sums and quotients respect. -/
structure Commutes (A : Arithmetic α) (R : α → α → Prop) : Prop where
  refl : ∀ x, R x x
  mul_comm : ∀ x y, R (A.mul x y) (A.mul y x)
  add : ∀ {x x' y y'}, R x x' → R y y' → R (A.add x y) (A.add x' y')
  div : ∀ {x x' y y'}, R x x' → R y y' → R (A.div x y) (A.div x' y')

/-- The norms are exchanged, and the dot products are related. -/
structure Mirrored (R : α → α → Prop) (s s' : Sums α) : Prop where
  dot : R s.dot s'.dot
  left : s.left = s'.right
  right : s.right = s'.left

variable {A : Arithmetic α} {R : α → α → Prop}

theorem Mirrored.push (hA : A.Commutes R) {s s' : Sums α} (h : Mirrored R s s') (x y : α) :
    Mirrored R (A.push s (x, y)) (A.push s' (y, x)) where
  dot := hA.add h.dot (hA.mul_comm x y)
  left := by simp only [Arithmetic.push, h.left]
  right := by simp only [Arithmetic.push, h.right]

theorem Mirrored.foldl_push (hA : A.Commutes R) (a b : List α) {s s' : Sums α}
    (h : Mirrored R s s') :
    Mirrored R ((a.zip b).foldl A.push s) ((b.zip a).foldl A.push s') := by
  induction a generalizing b s s' with
  | nil =>
    rw [List.zip_nil_left, List.zip_nil_right]
    exact h
  | cons x a ih =>
    cases b with
    | nil => exact h
    | cons y b => exact ih b (h.push hA x y)

theorem Mirrored.ratio (hA : A.Commutes R) {s s' : Sums α} (h : Mirrored R s s') :
    R (A.ratio s) (A.ratio s') := by
  obtain ⟨dot, left, right⟩ := s
  obtain ⟨dot', left', right'⟩ := s'
  obtain ⟨hdot, rfl, rfl⟩ := h
  simp only [Arithmetic.ratio]
  rw [Bool.or_comm]
  split
  · exact hA.refl A.zero
  · exact hA.div hdot (hA.mul_comm _ _)

/-- Exchanged vectors have related cosines, whatever their lengths. -/
theorem Commutes.cosine (hA : A.Commutes R) (a b : List α) : R (A.cosine a b) (A.cosine b a) := by
  have hstart : Mirrored R (⟨A.zero, A.zero, A.zero⟩ : Sums α) ⟨A.zero, A.zero, A.zero⟩ :=
    ⟨hA.refl A.zero, rfl, rfl⟩
  exact (hstart.foldl_push hA a b).ratio hA

end Arithmetic

/-! ## Binary64 -/

namespace Binary64

/-- The same number, or no number on both sides. -/
def Alike (x y : Binary64) : Prop := x = y ∨ x.isNaN ∧ y.isNaN

instance (x y : Binary64) : Decidable (x.Alike y) :=
  inferInstanceAs (Decidable (x = y ∨ x.isNaN = true ∧ y.isNaN = true))

variable {x x' y y' : Binary64}

theorem Alike.refl (x : Binary64) : x.Alike x := .inl rfl

theorem exists_nanOperand? (h : x.isNaN ∨ y.isNaN) :
    ∃ z, nanOperand? x y = some z ∧ z.isNaN := by
  obtain ⟨z, hz⟩ : ∃ z, nanOperand? x y = some z := by
    rw [← Option.ne_none_iff_exists', ne_eq, nanOperand?_eq_none]
    rintro ⟨hx, hy⟩
    rw [hx, hy] at h
    simp at h
  exact ⟨z, hz, isNaN_of_nanOperand? hz⟩

theorem isNaN_add (h : x.isNaN ∨ y.isNaN) : (x + y).isNaN := by
  obtain ⟨z, hz, hnan⟩ := exists_nanOperand? h
  show (add x y).isNaN
  rw [add, hz]
  exact hnan

theorem isNaN_mul (h : x.isNaN ∨ y.isNaN) : (x * y).isNaN := by
  obtain ⟨z, hz, hnan⟩ := exists_nanOperand? h
  show (mul x y).isNaN
  rw [mul, hz]
  exact hnan

theorem isNaN_div (h : x.isNaN ∨ y.isNaN) : (x / y).isNaN := by
  obtain ⟨z, hz, hnan⟩ := exists_nanOperand? h
  show (div x y).isNaN
  rw [div, hz]
  exact hnan

/-- Products commute, but of two NaNs the first one is answered. -/
theorem alike_mul_comm (x y : Binary64) : (x * y).Alike (y * x) := by
  by_cases h : x.isNaN ∨ y.isNaN
  · exact .inr ⟨isNaN_mul h, isNaN_mul h.symm⟩
  · rw [not_or, Bool.not_eq_true, Bool.not_eq_true] at h
    have hxy : nanOperand? x y = none := nanOperand?_eq_none.2 h
    have hyx : nanOperand? y x = none := nanOperand?_eq_none.2 h.symm
    left
    show mul x y = mul y x
    simp only [mul, hxy, hyx]
    rw [bne_comm, Bool.or_comm x.isInfinite, Bool.or_comm x.isZero, Nat.mul_comm]

theorem Alike.add (hx : x.Alike x') (hy : y.Alike y') : (x + y).Alike (x' + y') := by
  rcases hx with rfl | ⟨hx, hx'⟩
  · rcases hy with rfl | ⟨hy, hy'⟩
    · exact .refl _
    · exact .inr ⟨isNaN_add (.inr hy), isNaN_add (.inr hy')⟩
  · exact .inr ⟨isNaN_add (.inl hx), isNaN_add (.inl hx')⟩

theorem Alike.div (hx : x.Alike x') (hy : y.Alike y') : (x / y).Alike (x' / y') := by
  rcases hx with rfl | ⟨hx, hx'⟩
  · rcases hy with rfl | ⟨hy, hy'⟩
    · exact .refl _
    · exact .inr ⟨isNaN_div (.inr hy), isNaN_div (.inr hy')⟩
  · exact .inr ⟨isNaN_div (.inl hx), isNaN_div (.inl hx')⟩

/-- The arithmetic of binary64 numbers. -/
def arithmetic : Arithmetic Binary64 := ⟨.zero false, (· + ·), (· * ·), (· / ·), sqrt, isZero⟩

theorem commutes_arithmetic : arithmetic.Commutes Alike :=
  ⟨Alike.refl, alike_mul_comm, Alike.add, Alike.div⟩

end Binary64

/-- The cosine is what this arithmetic makes of it. -/
theorem cosine_arithmetic (a b : List Binary64) : Binary64.arithmetic.cosine a b = cosine a b := by
  let sums (s : CosineSums) : Arithmetic.Sums Binary64 := ⟨s.dot, s.left, s.right⟩
  have hsums : (a.zip b).foldl Binary64.arithmetic.push (sums .start) =
      sums (CosineSums.ofVectors a b) := List.foldl_hom sums fun s p => rfl
  exact congrArg Binary64.arithmetic.ratio hsums

/-- The cosine does not tell which vector comes first. -/
theorem alike_cosine_swap (a b : List Binary64) : (cosine a b).Alike (cosine b a) := by
  rw [← cosine_arithmetic, ← cosine_arithmetic]
  exact Binary64.commutes_arithmetic.cosine a b

end SimilarItems
