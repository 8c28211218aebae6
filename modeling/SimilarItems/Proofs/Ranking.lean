import SimilarItems.Score
import SimilarItems.TopK

/-!
# Rankings are strict total orders

The total order of binary64 numbers tells any two numbers with different bits apart, so the orders
that rank scores and weighted items are total and tell any two of them apart. A list therefore has
exactly one arrangement from the best down.
-/

namespace SimilarItems

open Std (TransCmp LawfulEqCmp OrientedCmp TransOrd LawfulEqOrd)

namespace Binary64

theorem rank_injective {x y : Binary64} (h : x.rank = y.rank) : x = y := by
  obtain ⟨xn, xm, hx⟩ := x
  obtain ⟨yn, ym, hy⟩ := y
  cases xn <;> cases yn <;> simp [rank] at h ⊢ <;> omega

instance : TransCmp totalOrder := inferInstanceAs (TransCmp (compareOn rank))

instance : LawfulEqCmp totalOrder where
  compare_self {x} := by simp [totalOrder]
  eq_of_compare h := rank_injective (LawfulEqCmp.eq_of_compare h)

end Binary64

instance : TransCmp Score.order :=
  have : TransCmp fun a b : Score => Binary64.totalOrder b.value a.value :=
    inferInstanceAs (TransCmp fun a b => compareOn (fun s : Score => s.value.rank) b a)
  inferInstanceAs (TransCmp (compareLex _ (compareOn Score.item)))

instance : LawfulEqCmp Score.order where
  compare_self {a} := by simp [Score.order]
  eq_of_compare {a b} h := by
    rw [Score.order, Ordering.then_eq_eq] at h
    obtain ⟨hv, hi⟩ := h
    cases a
    cases b
    simp_all

section Weighted

variable {α : Type} [Ord α]

instance [TransOrd α] : TransCmp (Weighted.order (α := α)) :=
  have : TransCmp fun a b : Weighted α => Binary64.totalOrder b.weight a.weight :=
    inferInstanceAs (TransCmp fun a b => compareOn (fun e : Weighted α => e.weight.rank) b a)
  inferInstanceAs (TransCmp (compareLex _ (compareOn Weighted.item)))

instance [LawfulEqOrd α] : LawfulEqCmp (Weighted.order (α := α)) where
  compare_self {a} := by simp [Weighted.order]
  eq_of_compare {a b} h := by
    rw [Weighted.order, Ordering.then_eq_eq] at h
    obtain ⟨hw, hi⟩ := h
    cases a
    cases b
    simp_all

end Weighted

namespace Ranking

variable {α : Type} {cmp : α → α → Ordering}

/-- A list that is arranged from the best down. -/
def Ranked (cmp : α → α → Ordering) (l : List α) : Prop :=
  l.Pairwise fun a b => (cmp a b).isLE

/-- There is only one arrangement from the best down. -/
theorem Ranked.eq_of_perm [TransCmp cmp] [LawfulEqCmp cmp] {l₁ l₂ : List α}
    (h₁ : Ranked cmp l₁) (h₂ : Ranked cmp l₂) (hp : l₁.Perm l₂) : l₁ = l₂ := by
  refine hp.eq_of_pairwise ?_ h₁ h₂
  intro a b _ _ hab hba
  exact LawfulEqCmp.eq_of_compare (OrientedCmp.isLE_antisymm hab hba)

theorem ranked_mergeSort [TransCmp cmp] (l : List α) :
    Ranked cmp (l.mergeSort fun a b => (cmp a b).isLE) := by
  refine List.pairwise_mergeSort (fun a b c => TransCmp.isLE_trans) (fun a b => ?_) l
  have hswap : cmp b a = (cmp a b).swap := OrientedCmp.eq_swap
  rw [hswap]
  cases cmp a b <;> rfl

/-- Sorting forgets in which order the entries came. -/
theorem mergeSort_eq_of_perm [TransCmp cmp] [LawfulEqCmp cmp] {l₁ l₂ : List α}
    (hp : l₁.Perm l₂) :
    l₁.mergeSort (fun a b => (cmp a b).isLE) = l₂.mergeSort (fun a b => (cmp a b).isLE) := by
  refine (ranked_mergeSort l₁).eq_of_perm (ranked_mergeSort l₂) ?_
  exact (List.mergeSort_perm _ _).trans (hp.trans (List.mergeSort_perm _ _).symm)

/-- Whatever is a ranked arrangement of a list is what sorting makes of it. -/
theorem Ranked.eq_mergeSort [TransCmp cmp] [LawfulEqCmp cmp] {l₁ l₂ : List α}
    (h : Ranked cmp l₁) (hp : l₁.Perm l₂) : l₁ = l₂.mergeSort fun a b => (cmp a b).isLE :=
  h.eq_of_perm (ranked_mergeSort l₂) (hp.trans (List.mergeSort_perm _ _).symm)

end Ranking

/-- The order in which scores are given does not show in the sorted list. -/
theorem Score.sort_eq_of_perm {l₁ l₂ : List Score} (hp : l₁.Perm l₂) : sort l₁ = sort l₂ :=
  Ranking.mergeSort_eq_of_perm hp

end SimilarItems
