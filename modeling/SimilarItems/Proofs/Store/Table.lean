import Mathlib.Data.List.Nodup
import Mathlib.Data.String.Basic
import SimilarItems.Proofs.Ranking
import SimilarItems.Store.Table

/-!
# Tables without repetitions

In a table that writes and deletions have made, no item has two rows. Pages of such a table are
slices of its items by rising order, so that an item is on a page exactly if its position is.
-/

namespace SimilarItems

/-! ## Slices of rising lists -/

section Rising

variable {α : Type} [LinearOrder α] {l : List α}

theorem countP_lt_head {a : α} (h : ∀ y ∈ l, a < y) : l.countP (· < a) = 0 := by
  rw [List.countP_eq_zero]
  intro y hy
  simpa using (h y hy).le

/-- In a rising list, the elements before a place are those with fewer elements below them. -/
theorem mem_take_iff_countP (h : l.Pairwise (· < ·)) {x : α} {n : Nat} :
    x ∈ l.take n ↔ x ∈ l ∧ l.countP (· < x) < n := by
  induction l generalizing n with
  | nil => simp
  | cons a l ih =>
    rw [List.pairwise_cons] at h
    cases n with
    | zero => simp
    | succ n =>
      rw [List.take_succ_cons, List.mem_cons, List.mem_cons, ih h.2, List.countP_cons]
      by_cases hxa : x = a
      · simp [hxa, countP_lt_head h.1]
      · by_cases hx : x ∈ l
        · simp [hxa, hx, h.1 x hx]
        · simp [hxa, hx]

/-- In a rising list, the elements of a slice are those whose number of elements below them is a
place of the slice. -/
theorem mem_take_drop_iff_countP (h : l.Pairwise (· < ·)) {x : α} {k n : Nat} :
    x ∈ (l.drop k).take n ↔ x ∈ l ∧ k ≤ l.countP (· < x) ∧ l.countP (· < x) < k + n := by
  induction l generalizing k with
  | nil => simp
  | cons a l ih =>
    cases k with
    | zero => simpa using mem_take_iff_countP h
    | succ k =>
      rw [List.pairwise_cons] at h
      rw [List.drop_succ_cons, ih h.2, List.mem_cons, List.countP_cons]
      by_cases hx : x ∈ l
      · have hlt : a < x := h.1 x hx
        simp only [hx, hlt, decide_true, if_true, or_true, true_and]
        omega
      · by_cases hxa : x = a
        · subst hxa
          simp [hx, countP_lt_head h.1]
        · simp [hx, hxa]

/-- In a rising list, all elements from a place on are above a bound exactly if no more elements
than the place says are not. -/
theorem forall_mem_drop_lt_iff (h : l.Pairwise (· < ·)) {y : α} {k : Nat} :
    (∀ z ∈ l.drop k, y < z) ↔ l.countP (· ≤ y) ≤ k := by
  induction l generalizing k with
  | nil => simp
  | cons a l ih =>
    rw [List.pairwise_cons] at h
    cases k with
    | zero => simp [List.countP_eq_zero]
    | succ k =>
      rw [List.drop_succ_cons, ih h.2, List.countP_cons]
      by_cases hay : a ≤ y
      · simp [hay]
      · have hnone : l.countP (· ≤ y) = 0 := by
          rw [List.countP_eq_zero]
          intro z hz
          have : y < z := (not_le.1 hay).trans (h.1 z hz)
          simpa using this
        simp [hay, hnone]

/-- The elements from a place on, at most as many as the limit says. -/
def slice {α : Type} (offset : Nat) (limit : Option Nat) (l : List α) : List α :=
  match limit with
  | none => l.drop offset
  | some n => (l.drop offset).take n

theorem sublist_slice {α : Type} (offset : Nat) (limit : Option Nat) (l : List α) :
    (slice offset limit l).Sublist l := by
  cases limit with
  | none => exact List.drop_sublist offset l
  | some n => exact (List.take_sublist n _).trans (List.drop_sublist offset l)

theorem slice_map {α β : Type} (f : α → β) (offset : Nat) (limit : Option Nat) (l : List α) :
    slice offset limit (l.map f) = (slice offset limit l).map f := by
  cases limit <;> simp [slice]

theorem slice_length_append {α : Type} (before rest : List α) (limit : Option Nat) :
    slice before.length limit (before ++ rest) = slice 0 limit rest := by
  cases limit <;> simp [slice]

/-- A slice at the front that does not reach its limit has all elements. -/
theorem slice_zero_eq_self {α : Type} {limit : Option Nat} {l : List α}
    (h : limit ≠ some (slice 0 limit l).length) : slice 0 limit l = l := by
  cases limit with
  | none => exact List.drop_zero
  | some n =>
    have hlength : (slice 0 (some n) l).length = min n l.length := List.length_take
    rw [hlength, ne_eq, Option.some_inj] at h
    have hle : l.length ≤ n := by omega
    exact List.take_of_length_le hle

theorem slice_zero_isPrefix {α : Type} (limit : Option Nat) (l : List α) :
    slice 0 limit l <+: l := by
  cases limit with
  | none => exact List.prefix_rfl
  | some n => exact List.take_prefix n l

theorem mem_slice_iff_countP (h : l.Pairwise (· < ·)) {x : α} {offset : Nat} {limit : Option Nat} :
    x ∈ slice offset limit l ↔
      x ∈ l ∧ offset ≤ l.countP (· < x) ∧ ∀ n ∈ limit, l.countP (· < x) < offset + n := by
  cases limit with
  | some n => simpa [slice] using mem_take_drop_iff_countP h
  | none =>
    have hall : l.drop offset = (l.drop offset).take l.length := by
      rw [List.take_of_length_le]
      rw [List.length_drop]
      omega
    have hle : x ∈ l → l.countP (· < x) < offset + l.length := by
      intro hx
      have hmem : x ∈ (l.drop 0).take l.length := by simpa using hx
      have := ((mem_take_drop_iff_countP h).1 hmem).2.2
      omega
    rw [slice, hall, mem_take_drop_iff_countP h]
    simp only [Option.mem_def, reduceCtorEq, false_implies, implies_true, and_true]
    tauto

/-- In a rising list, a slice has no elements but those above a bound exactly if no more elements
than the offset says are not. -/
theorem forall_mem_slice_lt_iff (h : l.Pairwise (· < ·)) {y : α} {offset : Nat}
    {limit : Option Nat} (hlimit : limit ≠ some 0) :
    (∀ z ∈ slice offset limit l, y < z) ↔ l.countP (· ≤ y) ≤ offset := by
  rw [← forall_mem_drop_lt_iff h]
  cases limit with
  | none => rfl
  | some n =>
    constructor
    · intro hall z hz
      cases hdrop : l.drop offset with
      | nil =>
        rw [hdrop] at hz
        cases hz
      | cons a rest =>
        have ha : a ∈ slice offset (some n) l := by
          obtain ⟨m, rfl⟩ := Nat.exists_eq_succ_of_ne_zero fun hn : n = 0 => hlimit (by rw [hn])
          rw [slice, hdrop, List.take_succ_cons]
          exact List.mem_cons_self
        have hrising := h.sublist (List.drop_sublist offset l)
        rw [hdrop, List.pairwise_cons] at hrising
        rw [hdrop] at hz
        rcases List.mem_cons.1 hz with rfl | hz
        · exact hall z ha
        · exact (hall a ha).trans (hrising.1 z hz)
    · intro hall z hz
      exact hall z (List.mem_of_mem_take hz)

end Rising

namespace Table

/-- The items of a table, in the order in which they came. -/
def items (t : Table) : List String := t.map (·.item)

/-- No item has two rows. -/
def Distinct (t : Table) : Prop := t.items.Nodup

/-! ## Writing and deleting -/

theorem mem_items_upsert {row : Row} {t : Table} {x : String} :
    x ∈ (upsert row t).items ↔ x ∈ t.items ∨ x = row.item := by
  induction t with
  | nil => simp [upsert, items]
  | cons r t ih =>
    rw [upsert]
    by_cases h : r.item = row.item
    · rw [if_pos h]
      simp only [items, List.map_cons, List.mem_cons, h]
      tauto
    · rw [if_neg h]
      simp only [items, List.map_cons, List.mem_cons] at ih ⊢
      rw [ih]
      tauto

theorem distinct_upsert {row : Row} {t : Table} (h : t.Distinct) : (upsert row t).Distinct := by
  induction t with
  | nil => simp [upsert, Distinct, items]
  | cons r t ih =>
    rw [Distinct, items, List.map_cons, List.nodup_cons] at h
    rw [upsert]
    by_cases hr : r.item = row.item
    · rw [if_pos hr, Distinct, items, List.map_cons, List.nodup_cons, ← hr]
      exact h
    · rw [if_neg hr, Distinct, items, List.map_cons, List.nodup_cons]
      refine ⟨fun hmem => ?_, ih h.2⟩
      rcases mem_items_upsert.1 hmem with hmem | hmem
      · exact h.1 hmem
      · exact hr hmem

theorem mem_items_delete {item x : String} {t : Table} :
    x ∈ (delete item t).items ↔ x ∈ t.items ∧ x ≠ item := by
  simp only [items, delete, List.mem_map, List.mem_filter, decide_eq_true_eq]
  constructor
  · rintro ⟨r, ⟨hr, hne⟩, rfl⟩
    exact ⟨⟨r, hr, rfl⟩, hne⟩
  · rintro ⟨⟨r, hr, rfl⟩, hne⟩
    exact ⟨r, ⟨hr, hne⟩, rfl⟩

theorem distinct_delete {item : String} {t : Table} (h : t.Distinct) :
    (delete item t).Distinct :=
  List.Nodup.sublist (List.filter_sublist.map _) h

/-! ## Rows -/

theorem row?_eq_none {item : String} {t : Table} : row? item t = none ↔ item ∉ t.items := by
  simp [row?, items]

theorem item_of_row? {item : String} {t : Table} {row : Row} (h : row? item t = some row) :
    row.item = item := by
  simpa using List.find?_some h

theorem row?_upsert (row : Row) (t : Table) (item : String) :
    row? item (upsert row t) = if row.item = item then some row else row? item t := by
  induction t with
  | nil =>
    by_cases h : row.item = item
    · simp [upsert, row?, h]
    · simp [upsert, row?, h]
  | cons r t ih =>
    simp only [row?] at ih ⊢
    rw [upsert]
    by_cases hr : r.item = row.item
    · rw [if_pos hr, List.find?_cons, List.find?_cons, hr]
      by_cases h : row.item = item
      · simp [h]
      · simp [h]
    · rw [if_neg hr, List.find?_cons, List.find?_cons, ih]
      by_cases h : row.item = item
      · have hri : r.item ≠ item := fun heq => hr (heq.trans h.symm)
        simp [h, hri]
      · simp [h]

theorem row?_delete (deleted : String) (t : Table) (item : String) :
    row? item (delete deleted t) = if item = deleted then none else row? item t := by
  rw [row?, row?, delete, List.find?_filter]
  induction t with
  | nil => simp
  | cons r t ih =>
    rw [List.find?_cons, List.find?_cons, ih]
    by_cases h : item = deleted
    · simp [h]
    · by_cases hr : r.item = item
      · simp [hr, h]
      · simp [hr, h]

/-- In a table without repetitions, every row is the row of its item. -/
theorem row?_of_mem {t : Table} (h : t.Distinct) {r : Row} (hr : r ∈ t) :
    row? r.item t = some r := by
  induction t with
  | nil => cases hr
  | cons r' t ih =>
    rw [Distinct, items, List.map_cons, List.nodup_cons] at h
    rw [row?, List.find?_cons]
    rcases List.mem_cons.1 hr with rfl | hr
    · simp
    · have hne : r'.item ≠ r.item := by
        intro heq
        exact h.1 (heq ▸ List.mem_map_of_mem hr)
      simp only [hne, decide_false]
      exact ih h.2 hr

/-! ## Pages -/

theorem perm_sorted (t : Table) : t.sorted.Perm t := List.mergeSort_perm t _

theorem perm_items_sorted (t : Table) : t.sorted.items.Perm t.items := t.perm_sorted.map _

theorem rising_sorted {t : Table} (h : t.Distinct) : t.sorted.items.Pairwise (· < ·) := by
  have hle : t.sorted.items.Pairwise (· ≤ ·) := by
    rw [items, List.pairwise_map]
    refine (List.pairwise_mergeSort (fun a b c => Std.TransCmp.isLE_trans) (fun a b => ?_) t).imp
      fun hab => compare_le_iff_le.1 (Ordering.isLE_iff_ne_gt.1 hab)
    have hswap : compare b.item a.item = (compare a.item b.item).swap := Std.OrientedCmp.eq_swap
    rw [hswap]
    cases compare a.item b.item <;> rfl
  have hne : t.sorted.items.Nodup := t.perm_items_sorted.nodup_iff.2 h
  exact (hle.and hne).imp fun hab => lt_of_le_of_ne hab.1 hab.2

theorem sorted_of_rising {t : Table} (h : t.items.Pairwise (· < ·)) : t.sorted = t := by
  rw [items, List.pairwise_map] at h
  refine List.mergeSort_of_pairwise (h.imp fun hab => ?_)
  rw [compare_lt_iff_lt.2 hab]
  rfl

theorem items_page (offset : Nat) (limit : Option Nat) (t : Table) :
    items (page offset limit t) = slice offset limit t.sorted.items := by
  unfold page
  cases limit <;> simp [items, slice]

theorem mem_of_mem_page {offset : Nat} {limit : Option Nat} {t : Table} {r : Row}
    (h : r ∈ page offset limit t) : r ∈ t := by
  refine t.perm_sorted.subset ?_
  unfold page at h
  cases limit with
  | none => exact List.mem_of_mem_drop h
  | some n => exact List.mem_of_mem_drop (List.mem_of_mem_take h)

theorem mem_of_mem_rowsOf {items : List String} {t : Table} {r : Row} (h : r ∈ rowsOf items t) :
    r ∈ t := t.perm_sorted.subset (List.mem_of_mem_filter h)

/-! ## Rows in another order -/

variable {t t' : Table}

/-- Tables without repetitions that have the same rows are arrangements of each other. -/
theorem perm_of_mem_iff (h : t.Distinct) (h' : t'.Distinct) (hrows : ∀ r, r ∈ t ↔ r ∈ t') :
    t.Perm t' :=
  (List.perm_ext_iff_of_nodup (List.Nodup.of_map _ h) (List.Nodup.of_map _ h')).2 hrows

theorem distinct_of_perm (h : t.Distinct) (hp : t.Perm t') : t'.Distinct :=
  (hp.map _).nodup_iff.1 h

theorem row?_eq_some_iff (h : t.Distinct) {item : String} {r : Row} :
    t.row? item = some r ↔ r ∈ t ∧ r.item = item := by
  constructor
  · intro hr
    exact ⟨List.mem_of_find?_eq_some hr, item_of_row? hr⟩
  · rintro ⟨hr, rfl⟩
    exact row?_of_mem h hr

theorem row?_of_perm (h : t.Distinct) (hp : t.Perm t') (item : String) :
    t.row? item = t'.row? item := by
  apply Option.ext
  intro r
  rw [row?_eq_some_iff h, row?_eq_some_iff (distinct_of_perm h hp), hp.mem_iff]

/-- By rising item, the rows have only one arrangement. -/
theorem sorted_of_perm (h : t.Distinct) (hp : t.Perm t') : t.sorted = t'.sorted := by
  have hrising : t.sorted.Pairwise fun a b => a.item < b.item := List.pairwise_map.1 (rising_sorted h)
  have hrising' : t'.sorted.Pairwise fun a b => a.item < b.item :=
    List.pairwise_map.1 (rising_sorted (distinct_of_perm h hp))
  have hsorted : t.sorted.Perm t'.sorted := t.perm_sorted.trans (hp.trans t'.perm_sorted.symm)
  refine hsorted.eq_of_pairwise ?_ hrising hrising'
  intro a b _ _ hab hba
  exact absurd hba hab.asymm

end Table

end SimilarItems
