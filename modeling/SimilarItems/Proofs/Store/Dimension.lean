import SimilarItems.Proofs.Store.History
import SimilarItems.Proofs.Store.Similar

/-!
# Stores that demand a dimension

A store that demands a dimension checks it on the embeddings that are written, not on the rows that are
read. But every vector that is read of its rows has the demanded dimension, so that a search passes
over no row, fails for no vector, and finds as many items as there are beside the source.
-/

namespace SimilarItems

namespace Row

/-- The vector of a row is read, with `d` components, all of them finite. -/
def HasDimension (d : Nat) (r : Row) : Prop :=
  ∃ v, decodeVector r.item r.vector = .ok v ∧ v.length = d ∧ ∀ x ∈ v, x.isFinite

variable {d : Nat} {r : Row} {source : Embedding}

theorem HasDimension.faultBeside?_eq_none (h : r.HasDimension d) (item : String) :
    r.faultBeside? item = none := by
  obtain ⟨v, hv, -, -⟩ := h
  rw [faultBeside?, hv]
  exact ite_self none

/-- Every row of another item has a score. -/
theorem HasDimension.isSome_scoreFor?_iff (h : r.HasDimension d) (hsource : source.dimension = d) :
    (r.scoreFor? source).isSome ↔ r.item ≠ source.item := by
  obtain ⟨v, hv, hlength, -⟩ := h
  rw [Option.isSome_iff_exists]
  constructor
  · rintro ⟨x, hx⟩
    obtain ⟨-, -, hitem, -, -⟩ := scoreFor?_eq_some.1 hx
    exact hitem
  · intro hitem
    exact ⟨_, scoreFor?_eq_some.2 ⟨v, hv, hitem, hlength.trans hsource.symm, rfl⟩⟩

theorem HasDimension.mismatched_eq_false (h : r.HasDimension d) (hsource : source.dimension = d)
    {c : String × List Binary64} (hc : r.candidate? source.item = some c) :
    Ranker.mismatched source c.1 c.2 = false := by
  obtain ⟨v, hv, hlength, -⟩ := h
  rw [candidate?, hv] at hc
  split at hc
  · cases hc
  · cases hc
    simp [Ranker.mismatched, hlength, hsource]

end Row

namespace Table

theorem mem_of_mem_upsert {row r : Row} {t : Table} (h : r ∈ upsert row t) : r = row ∨ r ∈ t := by
  induction t with
  | nil => exact Or.inl (List.mem_singleton.1 h)
  | cons r' t ih =>
    rw [upsert] at h
    split at h
    · rcases List.mem_cons.1 h with rfl | h
      · exact Or.inl rfl
      · exact Or.inr (List.mem_cons_of_mem r' h)
    · rcases List.mem_cons.1 h with rfl | h
      · exact Or.inr List.mem_cons_self
      · exact (ih h).imp_right (List.mem_cons_of_mem r')

/-- A table has one row less without one of its items. -/
theorem countP_item_ne {t : Table} (h : t.Distinct) {item : String} (hitem : item ∈ t.items) :
    t.countP (fun r => r.item ≠ item) = t.length - 1 := by
  have hone : t.countP (fun r => r.item = item) = 1 := by
    have hcount := List.count_eq_one_of_mem h hitem
    rw [List.count, items, List.countP_map] at hcount
    rw [← hcount]
    exact List.countP_congr fun r _ => by simp
  have hall := List.length_eq_countP_add_countP (fun r : Row => decide (r.item = item)) (l := t)
  have hne : t.countP (fun r => r.item ≠ item) =
      t.countP fun r => decide ¬ decide (r.item = item) = true :=
    List.countP_congr fun r _ => by simp
  omega

end Table

namespace Store

variable {s s' : Store} {t : Table}

theorem withTable_of_reach (hs : s.reach = .ok t) : s.withTable t = s := by
  rw [withTable, ← (reach_eq_ok.1 hs).2]

/-- What is put into a store is a row for one of the embeddings. -/
theorem exists_table_of_foldlM_put (hs : s.reach = .ok t) {es : List Embedding}
    (h : es.foldlM put s = .ok s') :
    ∃ t', s' = s.withTable t' ∧ ∀ r ∈ t', r ∈ t ∨ ∃ e ∈ es, s.rowFor e = .ok r := by
  induction es generalizing s t with
  | nil =>
    cases h
    exact ⟨t, (withTable_of_reach hs).symm, fun r hr => Or.inl hr⟩
  | cons e es ih =>
    rw [List.foldlM_cons] at h
    obtain ⟨s₁, hput, h⟩ := bind_eq_ok.1 h
    obtain ⟨row, t₁, hrow, ht₁, rfl⟩ := put_eq_ok.1 hput
    rw [hs] at ht₁
    cases ht₁
    obtain ⟨t', rfl, ht'⟩ := ih (reach_withTable hs _) h
    refine ⟨t', rfl, fun r hr => ?_⟩
    rcases ht' r hr with hr | ⟨e', he', hr⟩
    · rcases Table.mem_of_mem_upsert hr with rfl | hr
      · exact Or.inr ⟨e, List.mem_cons_self, hrow⟩
      · exact Or.inl hr
    · exact Or.inr ⟨e', List.mem_cons_of_mem e he', hr⟩

/-- A change touches nothing but the table, and what it leaves there was there before or is a row for
one of its embeddings. -/
theorem exists_table_of_run (hs : s.reach = .ok t) {c : Change} (h : c.run s = .ok s') :
    ∃ t', s' = s.withTable t' ∧ ∀ r ∈ t', r ∈ t ∨ ∃ e ∈ c.embeddings, s.rowFor e = .ok r := by
  cases c with
  | put e =>
    have hfold : [e].foldlM put s = .ok s' := bind_eq_ok.2 ⟨s', h, rfl⟩
    exact exists_table_of_foldlM_put hs hfold
  | putMany es => exact exists_table_of_foldlM_put hs (foldlM_put_of_putMany h)
  | delete item =>
    obtain ⟨t₁, ht₁, rfl⟩ := delete_eq_ok.1 h
    rw [hs] at ht₁
    cases ht₁
    exact ⟨_, rfl, fun r hr => Or.inl (List.mem_of_mem_filter hr)⟩

/-- What holds of the rows of a table and of every row that the store writes holds of the rows after
any changes. -/
theorem forall_rows_after {P : Row → Prop} (hs : s.reach = .ok t) (ht : ∀ r ∈ t, P r)
    (hP : ∀ e r, s.rowFor e = .ok r → P r) (changes : List Change) :
    ∃ t', (History.after s changes).store = s.withTable t' ∧ ∀ r ∈ t', P r := by
  refine History.after_induction
    (P := fun h => ∃ t', h.store = s.withTable t' ∧ ∀ r ∈ t', P r) ?_ ?_
  · exact ⟨t, (withTable_of_reach hs).symm, ht⟩
  · rintro h c - ⟨t', hstore, ht'⟩
    cases hrun : c.run h.store with
    | error error =>
      rw [History.step_of_error hrun]
      exact ⟨t', hstore, ht'⟩
    | ok s'' =>
      rw [History.step_of_ok hrun]
      rw [hstore] at hrun
      obtain ⟨t'', rfl, ht''⟩ := exists_table_of_run (reach_withTable hs t') hrun
      refine ⟨t'', rfl, fun r hr => ?_⟩
      rcases ht'' r hr with hr | ⟨e, -, hrow⟩
      · exact ht' r hr
      · exact hP e r hrow

/-- What a store that demands a dimension writes is read back with that dimension. -/
theorem hasDimension_of_rowFor {d : Nat} (hd : s.dimension = some d) {e : Embedding} {r : Row}
    (h : s.rowFor e = .ok r) : r.HasDimension d := by
  have hdimension : e.dimension = d := by
    by_contra hne
    simp only [rowFor, checkDimension, hd, if_neg hne] at h
    cases h
  obtain ⟨text, htext, rfl⟩ := map_eq_ok.1 (ofEmbedding_of_rowFor h)
  obtain ⟨v, hv, hrestores⟩ := Row.exists_decodeVector htext
  exact ⟨v, hv, hrestores.length_eq.symm.trans hdimension, Row.isFinite_of_decodeVector hv⟩

/-! ## Searches -/

section Search

variable {d : Nat} {item : String} {n : Nat} (hs : s.reach = .ok t) (hrows : ∀ r ∈ t, r.HasDimension d)

include hs hrows

/-- What is read of a row has the dimension of all rows. -/
theorem dimension_of_get {e : Embedding} (h : s.get item = .ok e) : e.dimension = d := by
  obtain ⟨t', row, ht', hrow, hread⟩ := get_eq_ok.1 h
  rw [hs] at ht'
  cases ht'
  obtain ⟨v, hv, hlength, -⟩ := hrows row (List.mem_of_find?_eq_some hrow)
  obtain ⟨w, hw, hread⟩ := bind_eq_ok.1 (read_eq_ok.1 hread)
  obtain ⟨u, -, hread⟩ := bind_eq_ok.1 hread
  cases hread
  rw [hv] at hw
  cases hw
  exact hlength

/-- Only the row of the item itself can make a search fail, and only by its instant. -/
theorem similar_eq_error_iff (hindex : s.index = .scan) {error : StoreError} :
    s.similar item n = .error error ↔ s.get item = .error error := by
  rw [similar, bind_eq_error]
  constructor
  · rintro (h | ⟨source, -, h⟩)
    · exact h
    · rw [hindex] at h
      have hfaults : ∀ r ∈ t, r.faultBeside? source.item = none :=
        fun r hr => (hrows r hr).faultBeside?_eq_none source.item
      have hfound : ∃ found, s.nearest source n = .ok found := by
        by_cases hn : n = 0
        · exact ⟨_, (nearest_eq_ok hs).2 (Or.inl ⟨hn, rfl⟩)⟩
        · exact ⟨_, (nearest_eq_ok hs).2 (Or.inr ⟨hn, hfaults, rfl⟩)⟩
      obtain ⟨found, hfound⟩ := hfound
      rw [hfound] at h
      cases h
  · exact fun h => Or.inl h

theorem get_ne_invalidVector (x : String) : s.get item ≠ .error (.encoding (.invalidVector x)) := by
  intro h
  rw [get, hs] at h
  cases hrow : t.row? item with
  | none =>
    simp only [bind, Except.bind, hrow] at h
    cases h
  | some row =>
    simp only [bind, Except.bind, hrow] at h
    obtain ⟨v, hv, -, -⟩ := hrows row (List.mem_of_find?_eq_some hrow)
    obtain ⟨fault, hfault, heq⟩ := mapError_eq_error.1 h
    cases heq
    rcases bind_eq_error.1 hfault with hfault | ⟨w, -, hfault⟩
    · rw [hv] at hfault
      cases hfault
    · rcases bind_eq_error.1 hfault with hfault | ⟨u, -, hfault⟩
      · rw [Row.decodeInstant] at hfault
        split at hfault
        · cases hfault
        · cases hfault
      · cases hfault

/-- A search passes over no row. -/
theorem skipped_of_similar (hindex : s.index = .scan) {found : Nearest}
    (h : s.similar item n = .ok found) : found.skipped = 0 := by
  obtain ⟨source, hsource, h⟩ := bind_eq_ok.1 h
  rw [hindex] at h
  rcases (nearest_eq_ok hs).1 h with ⟨-, rfl⟩ | ⟨-, -, rfl⟩
  · rfl
  · have hmismatched : (t.filterMap (Row.candidate? source.item)).countP
        (fun c => Ranker.mismatched source c.1 c.2) = 0 := by
      rw [List.countP_eq_zero]
      intro c hc
      obtain ⟨r, hr, hc⟩ := List.mem_filterMap.1 hc
      rw [(hrows r hr).mismatched_eq_false (dimension_of_get hs hrows hsource) hc]
      exact Bool.false_ne_true
    rw [Ranker.nearest, Ranker.offerAll_eq]
    show 0 + _ = 0
    rw [Nat.zero_add]
    exact hmismatched

/-- A search finds all items but the source, up to `n`. -/
theorem length_scores_of_similar (ht : t.Distinct) (hindex : s.index = .scan) {found : Nearest}
    (h : s.similar item n = .ok found) : found.scores.length = min n (t.length - 1) := by
  obtain ⟨source, hsource, hscores⟩ := scores_of_similar hs hindex h
  have hdimension := dimension_of_get hs hrows hsource
  have hmem : source.item ∈ t.items := by
    rw [item_of_get hsource]
    exact mem_items_of_get hs hsource
  have hcount : t.countP (fun r => (r.scoreFor? source).isSome) =
      t.countP (fun r => r.item ≠ source.item) := by
    refine List.countP_congr fun r hr => ?_
    rw [(hrows r hr).isSome_scoreFor?_iff hdimension]
    simp
  rw [hscores, List.length_take, Score.sort, List.length_mergeSort, Table.scores,
    List.length_filterMap_eq_countP, hcount, Table.countP_item_ne ht hmem]

end Search

/-- After any changes to an empty store that demands a dimension, every vector is read with that
dimension. A search passes over no row and finds all other items, up to `n`; if it fails, it fails as
the reading of its own item does, and not for a vector. -/
theorem similar_after_of_dimension (d : Nat) (changes : List Change) :
    ∃ t, (History.after (.empty (some d)) changes).Holds t ∧ (∀ r ∈ t, r.HasDimension d) ∧
      ∀ item n,
        (∀ found, (History.after (.empty (some d)) changes).store.similar item n = .ok found →
          found.skipped = 0 ∧ found.scores.length = min n (t.length - 1)) ∧
        (∀ error, (History.after (.empty (some d)) changes).store.similar item n = .error error ↔
          (History.after (.empty (some d)) changes).store.get item = .error error) ∧
        ∀ x, (History.after (.empty (some d)) changes).store.similar item n ≠
          .error (.encoding (.invalidVector x)) := by
  have hs : (Store.empty (some d)).reach = .ok [] := rfl
  obtain ⟨t, hstore, hrows⟩ := forall_rows_after (P := Row.HasDimension d) hs (List.forall_mem_nil _)
    (fun e r h => hasDimension_of_rowFor rfl h) changes
  obtain ⟨t', hh⟩ := History.holds_after hs changes
  have ht := hh.reach
  have hindex := History.index_after (.empty (some d)) changes
  obtain rfl : t = t' := by
    rw [hstore, reach_withTable hs t] at ht
    exact Except.ok.inj ht
  refine ⟨t, hh, hrows, fun item n => ⟨fun found hfound => ⟨?_, ?_⟩, fun error => ?_, fun x hx => ?_⟩⟩
  · exact skipped_of_similar ht hrows hindex hfound
  · exact length_scores_of_similar ht hrows hh.distinct hindex hfound
  · exact similar_eq_error_iff ht hrows hindex
  · exact get_ne_invalidVector ht hrows x ((similar_eq_error_iff ht hrows hindex).1 hx)

/-- Writes of which some are refused for their dimension or for a component, alone and in the middle of
a batch, a batch that writes an item twice, and a deletion. -/
def mixedWrites : List Change := [
  .put ⟨"a", [.one, .zero false], ⟨0, 0⟩⟩,
  .put ⟨"a", [.one], ⟨0, 0⟩⟩,
  .putMany [⟨"b", [.one, .one], ⟨0, 0⟩⟩, ⟨"c", [], ⟨0, 0⟩⟩],
  .putMany [⟨"b", [.one, .one], ⟨0, 0⟩⟩, ⟨"c", [.zero true, .one], ⟨0, 0⟩⟩,
    ⟨"b", [.neg .one, .one], ⟨0, 0⟩⟩, ⟨"d", [.one, .one], ⟨0, 0⟩⟩],
  .put ⟨"e", [.nan false, .one], ⟨0, 0⟩⟩,
  .delete "d"]

theorem similar_after_of_dimension_mixedWrites :
    ∃ found, (History.after (.empty (some 2)) mixedWrites).store.similar "a" 5 = .ok found ∧
      found.skipped = 0 ∧ found.scores.length = 2 := by
  have hread : ∃ e, (History.after (.empty (some 2)) mixedWrites).store.get "a" = .ok e :=
    ⟨⟨"a", [.one, .zero false], ⟨0, 0⟩⟩, by decide +kernel⟩
  have htable : (History.after (.empty (some 2)) mixedWrites).store.reach.map List.length = .ok 3 := by
    decide +kernel
  obtain ⟨t, hh, -, hall⟩ := similar_after_of_dimension 2 mixedWrites
  obtain ⟨hfound, herror, -⟩ := hall "a" 5
  have hlength : t.length = 3 := by
    rw [hh.reach] at htable
    exact Except.ok.inj htable
  obtain ⟨e, he⟩ := hread
  cases hsimilar : (History.after (.empty (some 2)) mixedWrites).store.similar "a" 5 with
  | error error =>
    rw [herror, he] at hsimilar
    cases hsimilar
  | ok found =>
    obtain ⟨hskipped, hscores⟩ := hfound found hsimilar
    rw [hlength] at hscores
    exact ⟨found, rfl, hskipped, hscores⟩

end Store

end SimilarItems
