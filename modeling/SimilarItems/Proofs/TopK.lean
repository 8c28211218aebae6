import SimilarItems.Proofs.Ranking

/-!
# What a bounded ranking keeps

However entries are pushed into a `TopK`, it holds the first `capacity` of all entries pushed,
ranked from the best down. What was cut off when an entry was pushed could not have come back.
-/

namespace SimilarItems.TopK

open Std (TransCmp LawfulEqCmp OrientedCmp TransOrd LawfulEqOrd)
open Ranking (Ranked)

variable {α : Type} [Ord α]

theorem insert_perm (e : Weighted α) (l : List (Weighted α)) : (insert e l).Perm (e :: l) := by
  induction l with
  | nil => exact List.Perm.refl _
  | cons x xs ih =>
    rw [insert]
    split
    · exact (ih.cons x).trans (List.Perm.swap e x xs)
    · exact List.Perm.refl _

theorem mem_insert {e x : Weighted α} {l : List (Weighted α)} :
    x ∈ insert e l ↔ x = e ∨ x ∈ l := by
  rw [(insert_perm e l).mem_iff, List.mem_cons]

theorem ranked_insert [TransOrd α] (e : Weighted α) {l : List (Weighted α)}
    (h : Ranked Weighted.order l) : Ranked Weighted.order (insert e l) := by
  induction l with
  | nil => exact List.pairwise_singleton _ _
  | cons x xs ih =>
    obtain ⟨hx, hxs⟩ := List.pairwise_cons.1 h
    rw [insert]
    split
    case isTrue hxe =>
      refine List.pairwise_cons.2 ⟨fun y hy => ?_, ih hxs⟩
      rcases mem_insert.1 hy with rfl | hy
      · exact hxe
      · exact hx y hy
    case isFalse hxe =>
      have hex : (e.order x).isLE := by
        have hswap : e.order x = (x.order e).swap := OrientedCmp.eq_swap
        rw [hswap]
        cases hc : x.order e <;> simp_all
      refine List.pairwise_cons.2 ⟨fun y hy => ?_, h⟩
      rcases List.mem_cons.1 hy with rfl | hy
      · exact hex
      · exact TransCmp.isLE_trans hex (hx y hy)

/-- What lies behind the first `k` entries does not decide what the first `k` are after an
insertion. -/
theorem take_insert_take (e : Weighted α) (l : List (Weighted α)) (k : Nat) :
    (insert e (l.take k)).take k = (insert e l).take k := by
  induction l generalizing k with
  | nil => simp
  | cons x xs ih =>
    cases k with
    | zero => simp
    | succ k =>
      rw [List.take_succ_cons, insert, insert]
      split
      · rw [List.take_succ_cons, List.take_succ_cons, ih k]
      · cases k with
        | zero => rfl
        | succ k => simp [List.take_take]

/-- All entries in their ranking order. -/
def arrange (es : List (Weighted α)) : List (Weighted α) := es.foldl (fun l e => insert e l) []

theorem foldl_insert_perm (es l : List (Weighted α)) :
    (es.foldl (fun l e => insert e l) l).Perm (es ++ l) := by
  induction es generalizing l with
  | nil => exact List.Perm.refl _
  | cons e es ih =>
    rw [List.foldl_cons]
    exact (ih (insert e l)).trans
      (((insert_perm e l).append_left es).trans List.perm_middle)

theorem arrange_perm (es : List (Weighted α)) : (arrange es).Perm es := by
  simpa [arrange] using foldl_insert_perm es []

theorem ranked_foldl_insert [TransOrd α] (es : List (Weighted α)) {l : List (Weighted α)}
    (h : Ranked Weighted.order l) :
    Ranked Weighted.order (es.foldl (fun l e => insert e l) l) := by
  induction es generalizing l with
  | nil => exact h
  | cons e es ih => exact ih (ranked_insert e h)

theorem arrange_eq_mergeSort [TransOrd α] [LawfulEqOrd α] (es : List (Weighted α)) :
    arrange es = es.mergeSort fun a b => (a.order b).isLE :=
  Ranked.eq_mergeSort (ranked_foldl_insert es List.Pairwise.nil) (arrange_perm es)

/-- Cutting off after every push gives the same as cutting off once at the end. -/
theorem entries_pushAll (t : TopK α) (l es : List (Weighted α))
    (h : t.entries = l.take t.capacity) :
    (t.pushAll es).entries = (es.foldl (fun l e => insert e l) l).take t.capacity := by
  induction es generalizing t l with
  | nil => exact h
  | cons e es ih =>
    have hpush : (t.push e).entries = (insert e l).take (t.push e).capacity := by
      simp only [push, h]
      exact take_insert_take e l t.capacity
    exact ih (t.push e) (insert e l) hpush

/-- What is kept of a stream are the first entries of the sorted stream. -/
theorem entries_pushAll_empty [TransOrd α] [LawfulEqOrd α] (k : Nat) (es : List (Weighted α)) :
    ((empty k).pushAll es).entries = (es.mergeSort fun a b => (a.order b).isLE).take k := by
  rw [entries_pushAll (empty k) [] es (by simp [empty]), ← arrange_eq_mergeSort]
  rfl

/-- What is kept of a stream does not depend on the order of the stream. -/
theorem pushAll_empty_of_perm [TransOrd α] [LawfulEqOrd α] (k : Nat) {es fs : List (Weighted α)}
    (hp : es.Perm fs) : ((empty k).pushAll es).entries = ((empty k).pushAll fs).entries := by
  rw [entries_pushAll_empty, entries_pushAll_empty, Ranking.mergeSort_eq_of_perm hp]

theorem capacity_pushAll (t : TopK α) (es : List (Weighted α)) :
    (t.pushAll es).capacity = t.capacity := by
  induction es generalizing t with
  | nil => rfl
  | cons e es ih => exact ih (t.push e)

theorem pushAll_empty_eq_of_perm [TransOrd α] [LawfulEqOrd α] (k : Nat) {es fs : List (Weighted α)}
    (hp : es.Perm fs) : (empty k).pushAll es = (empty k).pushAll fs := by
  have hcapacity : ((empty k).pushAll es).capacity = ((empty k).pushAll fs).capacity := by
    rw [capacity_pushAll, capacity_pushAll]
  have hentries := pushAll_empty_of_perm k hp
  generalize (empty k).pushAll es = t, (empty k).pushAll fs = t' at hcapacity hentries
  cases t
  cases t'
  cases hcapacity
  cases hentries
  rfl

end SimilarItems.TopK
