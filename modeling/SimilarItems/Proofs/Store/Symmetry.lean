import SimilarItems.Proofs.Cosine.Symmetry
import SimilarItems.Proofs.Store.Nearest

/-!
# Two items find each other with one score

Of two items whose embeddings can be read and have one dimension, each finds the other, if enough items
are asked for and no vector of the table stands in the way, and both times with the same score.
-/

namespace SimilarItems

/-- A score whose item no other score has is the only one of that item. -/
theorem Score.filter_item_eq {l : List Score} (h : (l.map (·.item)).Nodup) {x : Score} (hx : x ∈ l) :
    l.filter (fun y => y.item = x.item) = [x] := by
  obtain ⟨before, after, rfl⟩ := List.append_of_mem hx
  rw [List.map_append, List.map_cons, List.nodup_middle, ← List.map_append, List.nodup_cons] at h
  have hother : ∀ y ∈ before ++ after, y.item ≠ x.item := by
    intro y hy heq
    exact h.1 (heq ▸ List.mem_map_of_mem hy)
  have hbefore : before.filter (fun y => y.item = x.item) = [] := by
    rw [List.filter_eq_nil_iff]
    intro y hy
    simpa using hother y (List.mem_append_left after hy)
  have hafter : after.filter (fun y => y.item = x.item) = [] := by
    rw [List.filter_eq_nil_iff]
    intro y hy
    simpa using hother y (List.mem_append_right before hy)
  rw [List.filter_append, List.filter_cons_of_pos (by simp), hbefore, hafter, List.nil_append]

theorem Row.faultBeside?_eq_some {item : String} {r : Row} {fault : EncodingFault} :
    r.faultBeside? item = some fault ↔
      r.item ≠ item ∧ decodeVector r.item r.vector = .error fault := by
  rw [faultBeside?]
  by_cases hitem : r.item = item
  · simp [hitem]
  · cases decodeVector r.item r.vector <;> simp [hitem]

namespace Store

/-- The values under which an item's nearest items list another one. -/
def valuesFor (s : Store) (item other : String) (n : Nat) : Except StoreError (List Binary64) :=
  (s.similar item n).map fun found => (found.scores.filter fun x => x.item = other).map (·.value)

/-- Two stored items whose embeddings can be read and have one dimension. -/
structure Comparable (s : Store) (t : Table) (a b : Embedding) : Prop where
  reach : s.reach = .ok t
  distinct : t.Distinct
  scan : s.index = .scan
  first : s.get a.item = .ok a
  second : s.get b.item = .ok b
  ne : a.item ≠ b.item
  dimension : a.dimension = b.dimension

variable {s : Store} {t : Table} {a b : Embedding}

namespace Comparable

theorem symm (h : s.Comparable t a b) : s.Comparable t b a :=
  ⟨h.reach, h.distinct, h.scan, h.second, h.first, h.ne.symm, h.dimension.symm⟩

theorem exists_row (h : s.Comparable t a b) :
    ∃ row, t.row? a.item = some row ∧ row.toEmbedding = .ok a ∧
      Row.decodeVector row.item row.vector = .ok a.vector := by
  obtain ⟨t', row, ht', hrow, hread⟩ := get_eq_ok.1 h.first
  rw [h.reach] at ht'
  cases ht'
  refine ⟨row, hrow, read_eq_ok.1 hread, ?_⟩
  obtain ⟨v, hv, hrest⟩ := bind_eq_ok.1 (read_eq_ok.1 hread)
  obtain ⟨u, -, hrest⟩ := bind_eq_ok.1 hrest
  cases hrest
  exact hv

/-- The row of the first item is in nobody's way. -/
theorem faultBeside?_first (h : s.Comparable t a b) {r : Row} (hr : r ∈ t) (hitem : r.item = a.item)
    (item : String) : r.faultBeside? item = none := by
  obtain ⟨row, hrow, -, hvector⟩ := h.exists_row
  rw [← hitem, Table.row?_of_mem h.distinct hr] at hrow
  cases hrow
  rw [Row.faultBeside?, hvector]
  exact ite_self none

/-- Beside the row of either item the same vectors are looked at. -/
theorem findSome?_faultBeside? (h : s.Comparable t a b) :
    t.findSome? (Row.faultBeside? a.item) = t.findSome? (Row.faultBeside? b.item) := by
  refine findSome?_congr fun r hr => ?_
  by_cases hfirst : r.item = a.item
  · rw [h.faultBeside?_first hr hfirst, h.faultBeside?_first hr hfirst]
  · by_cases hsecond : r.item = b.item
    · rw [h.symm.faultBeside?_first hr hsecond, h.symm.faultBeside?_first hr hsecond]
    · rw [Row.faultBeside?, Row.faultBeside?, if_neg hfirst, if_neg hsecond]

/-- The row of the second item scores their cosine, and is the only one of its item to score. -/
theorem filter_scores (h : s.Comparable t a b) :
    (t.scores a).filter (fun x => x.item = b.item) = [⟨b.item, cosine a.vector b.vector⟩] := by
  obtain ⟨row, hrow, -, hvector⟩ := h.symm.exists_row
  have hitem := Table.item_of_row? hrow
  have hscore : row.scoreFor? a = some ⟨b.item, cosine a.vector b.vector⟩ :=
    Row.scoreFor?_eq_some.2
      ⟨b.vector, hvector, hitem ▸ h.ne.symm, h.dimension.symm, by rw [hitem]⟩
  have hmem : (⟨b.item, cosine a.vector b.vector⟩ : Score) ∈ t.scores a :=
    List.mem_filterMap.2 ⟨row, List.mem_of_find?_eq_some hrow, hscore⟩
  exact Score.filter_item_eq (h.distinct.sublist (t.sublist_items_scores a)) hmem

/-- An item that asks for enough others lists the second one once, with their cosine. -/
theorem valuesFor_eq (h : s.Comparable t a b) {n : Nat} (hn : t.length ≤ n) :
    s.valuesFor a.item b.item n =
      (barring (t.findSome? (Row.faultBeside? a.item)) [cosine a.vector b.vector]).mapError
        .encoding := by
  obtain ⟨row, hrow, hread, -⟩ := h.exists_row
  have hne : n ≠ 0 := by
    have := List.length_pos_of_mem (List.mem_of_find?_eq_some hrow)
    omega
  have hsimilar := similar_eq h.reach h.scan a.item n
  simp only [Table.similar, hrow, hread, if_neg hne] at hsimilar
  have hvalues : s.valuesFor a.item b.item n = ((s.similar a.item n).map (·.scores)).map
      fun scores => (scores.filter fun x => x.item = b.item).map (·.value) := by
    rw [valuesFor]
    cases s.similar a.item n <;> rfl
  rw [hvalues, hsimilar]
  cases t.findSome? (Row.faultBeside? a.item) with
  | some fault => rfl
  | none =>
    have hall : (Score.sort (t.scores a)).take n = Score.sort (t.scores a) := by
      refine List.take_of_length_le ?_
      rw [Score.sort, List.length_mergeSort]
      exact (List.length_filterMap_le _ _).trans hn
    have hfilter : (Score.sort (t.scores a)).filter (fun x => x.item = b.item) =
        [⟨b.item, cosine a.vector b.vector⟩] := by
      rw [← List.perm_singleton, ← h.filter_scores]
      exact (List.mergeSort_perm _ _).filter _
    show Except.ok ((((Score.sort (t.scores a)).take n).filter fun x => x.item = b.item).map
      (·.value)) = _
    rw [hall, hfilter]
    rfl

/-- However many items are asked for, a value under which the second one is listed is the cosine. -/
theorem eq_cosine_of_mem (h : s.Comparable t a b) {n : Nat} {values : List Binary64}
    (hvalues : s.valuesFor a.item b.item n = .ok values) {u : Binary64} (hu : u ∈ values) :
    u = cosine a.vector b.vector := by
  obtain ⟨found, hfound, rfl⟩ := map_eq_ok.1 hvalues
  obtain ⟨x, hx, rfl⟩ := List.mem_map.1 hu
  rw [List.mem_filter, decide_eq_true_iff] at hx
  obtain ⟨v, w, hv, hw, -, -, -, hvalue⟩ :=
    compares_of_similar h.reach h.distinct h.scan hfound x hx.1
  rw [vector?_of_get h.first] at hv
  rw [hx.2, vector?_of_get h.second] at hw
  cases hv
  cases hw
  exact hvalue

end Comparable

/-- Cosines do not tell which vector comes first, but for the payload of a NaN. So two items list each
other with the same score, and they do list each other if enough items are asked for, unless a vector
of the table cannot be read, which is then the failure of both searches. -/
theorem cosine_and_similar_symmetric :
    (∀ v w : List Binary64, (cosine v w).Alike (cosine w v)) ∧
    ∀ {s : Store} {t : Table} {a b : Embedding}, s.Comparable t a b → ∀ n m : Nat,
      (∀ us vs, s.valuesFor a.item b.item n = .ok us → s.valuesFor b.item a.item m = .ok vs →
        ∀ u ∈ us, ∀ v ∈ vs, u.Alike v) ∧
      (t.length ≤ n → t.length ≤ m →
        (∃ u v, s.valuesFor a.item b.item n = .ok [u] ∧ s.valuesFor b.item a.item m = .ok [v] ∧
          u.Alike v) ∨
        ∃ r ∈ t, ∃ fault, Row.decodeVector r.item r.vector = .error fault ∧
          s.valuesFor a.item b.item n = .error (.encoding fault) ∧
          s.valuesFor b.item a.item m = .error (.encoding fault)) := by
  refine ⟨alike_cosine_swap, fun {s t a b} h n m => ⟨?_, fun hn hm => ?_⟩⟩
  · intro us vs hus hvs u hu v hv
    rw [h.eq_cosine_of_mem hus hu, h.symm.eq_cosine_of_mem hvs hv]
    exact alike_cosine_swap _ _
  · rw [h.valuesFor_eq hn, h.symm.valuesFor_eq hm, ← h.findSome?_faultBeside?]
    cases hfault : t.findSome? (Row.faultBeside? a.item) with
    | none => exact .inl ⟨_, _, rfl, rfl, alike_cosine_swap _ _⟩
    | some fault =>
      obtain ⟨r, hr, hrfault⟩ := List.exists_of_findSome?_eq_some hfault
      exact .inr ⟨r, hr, fault, (Row.faultBeside?_eq_some.1 hrfault).2, rfl, rfl⟩

/-- Two items that a row of another dimension stands between, and a row that is nearer to one of them. -/
def crowdedRows : Table :=
  [⟨"a", "[0.3,-1.2,2.0]", "1970-01-01T00:00:00+00:00"⟩, ⟨"c", "[1.0]", "?"⟩,
    ⟨"b", "[1.5,0.4,-0.7]", "1970-01-01T00:00:00+00:00"⟩, ⟨"h", "[1e+200,0.0,0.0]", "?"⟩]

/-- A store of these rows. -/
def crowded : Store := (Store.empty none).withTable crowdedRows

/-- The embedding of the first item. -/
def crowdedFirst : Embedding :=
  ⟨"a", [.ofBits 0x3fd3333333333333, .ofBits 0xbff3333333333333, .ofBits 0x4000000000000000], ⟨0, 0⟩⟩

/-- The embedding of the second item. -/
def crowdedSecond : Embedding :=
  ⟨"b", [.ofBits 0x3ff8000000000000, .ofBits 0x3fd999999999999a, .ofBits 0xbfe6666666666666], ⟨0, 0⟩⟩

theorem comparable_crowded : crowded.Comparable crowdedRows crowdedFirst crowdedSecond where
  reach := rfl
  distinct := by
    show crowdedRows.items.Nodup
    decide
  scan := rfl
  first := by decide +kernel
  second := by decide +kernel
  ne := by decide
  dimension := rfl

/-- One item is too few for the second to find the first, and all of them suffice. -/
theorem cosine_and_similar_symmetric_crowded :
    crowded.valuesFor "b" "a" 1 = .ok [] ∧
    (∃ u v, crowded.valuesFor "a" "b" 4 = .ok [u] ∧ crowded.valuesFor "b" "a" 5 = .ok [v] ∧
      u.Alike v) ∧
    (cosine [.nan true, .one] [.infinity false]).Alike (cosine [.infinity false] [.nan true, .one]) := by
  have hvalues : crowded.valuesFor "a" "b" 4 = .ok [.ofBits 0xbfd6da84ed232f25] := by decide +kernel
  obtain ⟨hcosine, hsimilar⟩ := cosine_and_similar_symmetric
  obtain ⟨-, henough⟩ := hsimilar comparable_crowded 4 5
  refine ⟨by decide +kernel, ?_, hcosine _ _⟩
  rcases henough (by decide) (by decide) with hlisted | ⟨r, -, fault, -, herror, -⟩
  · exact hlisted
  · have hboth := hvalues.symm.trans herror
    cases hboth

end Store

end SimilarItems
