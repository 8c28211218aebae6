import SimilarItems.Proofs.Cosine
import SimilarItems.Proofs.Store.Row
import SimilarItems.Proofs.Store.Similar

/-!
# What the nearest items score

Every item that is found for another one has a row whose vector is read, with as many components as
that of the other one, and scores the cosine of the two.
-/

namespace SimilarItems

namespace Store

/-- The vector that is read of an item's row. -/
def vector? (s : Store) (item : String) : Option (List Binary64) := do
  let t ← s.reach.toOption
  let row ← t.row? item
  (Row.decodeVector row.item row.vector).toOption

variable {s : Store} {t : Table} {item : String} {v : List Binary64}

theorem vector?_of_row (ht : s.reach = .ok t) {row : Row} (hrow : t.row? item = some row)
    (hv : Row.decodeVector row.item row.vector = .ok v) : s.vector? item = some v := by
  rw [vector?, ht]
  show (t.row? item).bind _ = some v
  rw [hrow]
  show (Row.decodeVector row.item row.vector).toOption = some v
  rw [hv]
  rfl

theorem vector?_of_get {e : Embedding} (h : s.get item = .ok e) :
    s.vector? item = some e.vector := by
  obtain ⟨t, row, ht, hrow, hread⟩ := get_eq_ok.1 h
  obtain ⟨v, hv, h⟩ := bind_eq_ok.1 (read_eq_ok.1 hread)
  obtain ⟨u, -, h⟩ := bind_eq_ok.1 h
  cases h
  exact vector?_of_row ht hrow hv

theorem isFinite_of_vector? (h : s.vector? item = some v) : ∀ x ∈ v, x.isFinite := by
  obtain ⟨t, -, h⟩ := Option.bind_eq_some_iff.1 h
  obtain ⟨row, -, h⟩ := Option.bind_eq_some_iff.1 h
  cases hv : Row.decodeVector row.item row.vector with
  | error e =>
    rw [hv] at h
    cases h
  | ok w =>
    rw [hv] at h
    cases h
    exact Row.isFinite_of_decodeVector hv

/-- The cosine of the vectors that two items have, both finite and of one length. -/
def Compares (s : Store) (item : String) (score : Score) : Prop :=
  ∃ v w, s.vector? item = some v ∧ s.vector? score.item = some w ∧ (∀ x ∈ v, x.isFinite) ∧
    (∀ x ∈ w, x.isFinite) ∧ w.length = v.length ∧ score.value = cosine v w

/-- If two items have vectors, their dot product has not overflowed, or a norm is zero. -/
def Bounded (s : Store) (item other : String) : Prop :=
  ∀ v ∈ s.vector? item, ∀ w ∈ s.vector? other, (CosineSums.ofVectors v w).Bounded

instance (s : Store) (item other : String) : Decidable (s.Bounded item other) :=
  inferInstanceAs (Decidable
    (∀ v ∈ s.vector? item, ∀ w ∈ s.vector? other, (CosineSums.ofVectors v w).Bounded))

theorem Compares.isFinite_iff {score : Score} (h : s.Compares item score) :
    score.value.isFinite ↔ s.Bounded item score.item := by
  obtain ⟨v, w, hv, hw, hvfinite, hwfinite, -, hvalue⟩ := h
  rw [hvalue, isFinite_cosine_iff hvfinite hwfinite, Bounded, hv, hw]
  simp

/-- The items that are found for an item score their cosines. -/
theorem compares_of_similar {n : Nat} {found : Nearest} (ht : s.reach = .ok t) (hn : t.Distinct)
    (hindex : s.index = .scan) (h : s.similar item n = .ok found) :
    ∀ score ∈ found.scores, s.Compares item score := by
  obtain ⟨source, hsource, hscores⟩ := scores_of_similar ht hindex h
  intro score hscore
  rw [hscores] at hscore
  have hmem : score ∈ t.scores source := List.mem_mergeSort.1 (List.mem_of_mem_take hscore)
  obtain ⟨row, hrow, hscore⟩ := List.mem_filterMap.1 hmem
  obtain ⟨w, hdecoded, -, hlength, rfl⟩ := Row.scoreFor?_eq_some.1 hscore
  have hv : s.vector? item = some source.vector := vector?_of_get hsource
  have hw : s.vector? row.item = some w := vector?_of_row ht (Table.row?_of_mem hn hrow) hdecoded
  exact ⟨_, w, hv, hw, isFinite_of_vector? hv, isFinite_of_vector? hw, hlength, rfl⟩

end Store

end SimilarItems
