import Mathlib.Data.String.Basic
import SimilarItems.Proofs.Binary64.Order
import SimilarItems.Proofs.Ranking
import SimilarItems.Proofs.Text.Bytes

/-!
# The order of scores

Scores are ordered from the highest value down, and scores of one value by the bytes of their items.
Only a score and itself are equal in this order, so there is one arrangement of scores from the best
down, and sorting comes to it from every other.
-/

namespace SimilarItems

open Std (TransCmp LawfulEqCmp OrientedCmp ReflCmp)
open Ranking (Ranked)

theorem Text.bytes_lt_bytes_iff {s t : String} : bytes s < bytes t ↔ s < t := by
  refine ⟨fun h => ?_, bytes_lt_bytes⟩
  by_contra hle
  exact bytes_le_bytes.2 (not_lt.1 hle) h

namespace Score

variable {a b : Score}

theorem order_eq_eq_iff : order a b = .eq ↔ a.value.toBits = b.value.toBits ∧ a.item = b.item := by
  constructor
  · intro h
    rw [LawfulEqCmp.eq_of_compare h]
    exact ⟨rfl, rfl⟩
  · rintro ⟨hbits, hitem⟩
    have heq : a = b := by
      cases a
      cases b
      rw [mk.injEq]
      exact ⟨hitem, Binary64.toBits_injective hbits⟩
    rw [heq]
    exact ReflCmp.compare_self

theorem order_eq_lt_iff : order a b = .lt ↔ a.value.Above b.value ∨
    a.value.toBits = b.value.toBits ∧ Text.bytes a.item < Text.bytes b.item := by
  rw [order, Ordering.then_eq_lt, Binary64.totalOrder_eq_lt_iff, compare_lt_iff_lt,
    Text.bytes_lt_bytes_iff]
  have heq : Binary64.totalOrder b.value a.value = .eq ↔ a.value.toBits = b.value.toBits := by
    constructor
    · intro h
      rw [LawfulEqCmp.eq_of_compare h]
    · intro h
      rw [Binary64.toBits_injective h]
      exact ReflCmp.compare_self
  rw [heq]

/-- The ranking order is a strict total order. It goes by values in the total order of binary64
numbers, from the positive NaNs down to the negative ones, and then by the bytes of the items. What
sorting makes of scores is their one arrangement in this order, and does not depend on how they are
given. -/
theorem order_strict_total :
    (∀ a b : Score, order a b = .eq ↔ a.value.toBits = b.value.toBits ∧ a.item = b.item) ∧
    (∀ a b : Score, order b a = (order a b).swap) ∧
    (∀ a b c : Score, order a b = .lt → order b c = .lt → order a c = .lt) ∧
    (∀ a b : Score, order a b = .lt ↔ a.value.Above b.value ∨
      a.value.toBits = b.value.toBits ∧ Text.bytes a.item < Text.bytes b.item) ∧
    (∀ x y : Binary64, x.totalOrder y = compare x.turned.toInt y.turned.toInt) ∧
    (∀ l : List Score, (sort l).Perm l ∧ Ranked order (sort l) ∧
      ∀ s, s.Perm l → Ranked order s → s = sort l) ∧
    ∀ l l' : List Score, l'.Perm l → sort l' = sort l := by
  refine ⟨fun a b => order_eq_eq_iff, fun a b => OrientedCmp.eq_swap,
    fun a b c => TransCmp.lt_trans, fun a b => order_eq_lt_iff,
    Binary64.totalOrder_eq_compare_turned, fun l => ⟨?_, ?_, ?_⟩, fun l l' => sort_eq_of_perm⟩
  · exact List.mergeSort_perm l _
  · exact Ranking.ranked_mergeSort l
  · exact fun s hperm hranked => hranked.eq_mergeSort hperm

/-- Scores of all kinds, some of one value: NaNs of two payloads, items of one byte and of two, and
zeros of both signs. -/
def mixedScores : List Score :=
  [⟨"d", .zero true⟩, ⟨"a", .nan true⟩, ⟨"é", .one⟩, ⟨"c", .ofBits 0x7ff0000000000001⟩,
    ⟨"b", .zero false⟩, ⟨"z", .one⟩, ⟨"c", .nan false⟩, ⟨"e", .infinity true⟩]

/-- The same from the best down. -/
def mixedScoresRanked : List Score :=
  [⟨"c", .nan false⟩, ⟨"c", .ofBits 0x7ff0000000000001⟩, ⟨"z", .one⟩, ⟨"é", .one⟩,
    ⟨"b", .zero false⟩, ⟨"d", .zero true⟩, ⟨"e", .infinity true⟩, ⟨"a", .nan true⟩]

theorem order_strict_total_mixed :
    order ⟨"c", .nan false⟩ ⟨"e", .infinity true⟩ = .lt ∧
    Binary64.Above (.nan false) (.ofBits 0x7ff0000000000001) ∧
    sort mixedScores = mixedScoresRanked ∧ sort mixedScores.reverse = mixedScoresRanked := by
  obtain ⟨-, -, htrans, hlt, -, hsort, hperm⟩ := order_strict_total
  have hranked : mixedScoresRanked = sort mixedScores :=
    (hsort mixedScores).2.2 mixedScoresRanked (by decide +kernel) (by
      unfold Ranked
      decide +kernel)
  refine ⟨?_, ?_, hranked.symm, ?_⟩
  · exact htrans _ ⟨"z", .one⟩ _ (by decide +kernel) (by decide +kernel)
  · have h : order ⟨"c", .nan false⟩ ⟨"c", .ofBits 0x7ff0000000000001⟩ = .lt := by decide +kernel
    rcases (hlt _ _).1 h with habove | ⟨hbits, -⟩
    · exact habove
    · exact absurd hbits (by decide +kernel)
  · rw [hperm _ _ (List.reverse_perm _), hranked]

end Score

end SimilarItems
