import SimilarItems.Proofs.Ranker
import SimilarItems.Proofs.Store.Operations

/-!
# What a search for similar items answers

A search streams the rows of the table, in their order, into a ranker of bounded capacity. Its answer
is the one that can be read off the table as a whole: of several reasons to fail the first counts, and
otherwise the scores of all other rows are sorted and cut.
-/

namespace SimilarItems

namespace Row

/-- The fault of a row's vector. The row of a given item is not looked at. -/
def faultBeside? (item : String) (r : Row) : Option EncodingFault :=
  if r.item = item then none
  else
    match decodeVector r.item r.vector with
    | .ok _ => none
    | .error fault => some fault

/-- The item and the vector of a row, if the vector can be read. The row of a given item is not
looked at. -/
def candidate? (item : String) (r : Row) : Option (String × List Binary64) :=
  if r.item = item then none
  else
    match decodeVector r.item r.vector with
    | .ok vector => some (r.item, vector)
    | .error _ => none

/-- What a row scores for a source: nothing for the source's own row, a vector of another length, or
one that cannot be read. -/
def scoreFor? (source : Embedding) (r : Row) : Option Score :=
  match decodeVector r.item r.vector with
  | .ok vector =>
    if r.item ≠ source.item ∧ vector.length = source.dimension then
      some ⟨r.item, cosine source.vector vector⟩
    else none
  | .error _ => none

theorem scoreFor?_eq (source : Embedding) (r : Row) :
    r.scoreFor? source = (r.candidate? source.item).bind fun c => Ranker.score? source c.1 c.2 := by
  unfold scoreFor? candidate? Ranker.score?
  by_cases hitem : r.item = source.item
  · cases decodeVector r.item r.vector <;> simp [hitem]
  · cases decodeVector r.item r.vector <;> simp [hitem]

theorem scoreFor?_eq_some {source : Embedding} {r : Row} {x : Score} :
    r.scoreFor? source = some x ↔ ∃ vector, decodeVector r.item r.vector = .ok vector ∧
      r.item ≠ source.item ∧ vector.length = source.dimension ∧
        x = ⟨r.item, cosine source.vector vector⟩ := by
  unfold scoreFor?
  cases decodeVector r.item r.vector with
  | error fault => simp
  | ok vector =>
    by_cases h : r.item ≠ source.item ∧ vector.length = source.dimension
    · simp [h, eq_comm]
    · simp only [if_neg h, Except.ok.injEq]
      constructor
      · rintro ⟨⟩
      · rintro ⟨_, rfl, hitem, hlength, -⟩
        exact absurd ⟨hitem, hlength⟩ h

end Row

namespace Table

/-- What the rows of a table score for a source, in the order of the table. -/
def scores (source : Embedding) (t : Table) : List Score := t.filterMap (Row.scoreFor? source)

/-- The answer to a search for the `n` items that are most similar to an item. -/
def similar (item : String) (n : Nat) (t : Table) : Except StoreError (List Score) :=
  match t.row? item with
  | none => .error (.notFound item)
  | some row =>
    match row.toEmbedding with
    | .error fault => .error (.encoding fault)
    | .ok source =>
      if n = 0 then .ok []
      else
        match t.findSome? (Row.faultBeside? item) with
        | some fault => .error (.encoding fault)
        | none => .ok ((Score.sort (t.scores source)).take n)

theorem sublist_items_scores (source : Embedding) (t : Table) :
    ((t.scores source).map (·.item)).Sublist t.items := by
  induction t with
  | nil => exact List.Sublist.slnil
  | cons r t ih =>
    unfold scores at ih ⊢
    rw [List.filterMap_cons]
    cases hscore : r.scoreFor? source with
    | none => exact ih.cons _
    | some x =>
      obtain ⟨vector, -, -, -, rfl⟩ := Row.scoreFor?_eq_some.1 hscore
      exact ih.cons_cons _

theorem item_notMem_scores (source : Embedding) (t : Table) :
    source.item ∉ (t.scores source).map (·.item) := by
  intro hmem
  obtain ⟨x, hx, hitem⟩ := List.mem_map.1 hmem
  obtain ⟨r, -, hr⟩ := List.mem_filterMap.1 hx
  obtain ⟨vector, -, hne, -, rfl⟩ := Row.scoreFor?_eq_some.1 hr
  exact hne hitem

end Table

/-- A result, unless there is a fault. -/
def barring {ε α : Type} (fault? : Option ε) (a : α) : Except ε α :=
  match fault? with
  | none => .ok a
  | some fault => .error fault

namespace Ranker

theorem offerRow_eq (r : Ranker) (row : Row) :
    r.offerRow row = barring (row.faultBeside? r.source.item)
      (r.offerAll (row.candidate? r.source.item).toList) := by
  unfold offerRow Row.faultBeside? Row.candidate?
  by_cases hitem : row.item = r.source.item
  · simp [hitem, offerAll, barring]
  · cases Row.decodeVector row.item row.vector <;> simp [hitem, offerAll, barring, Except.map]

theorem source_offerAll (r : Ranker) (candidates : List (String × List Binary64)) :
    (r.offerAll candidates).source = r.source := by
  rw [offerAll_eq]

/-- Rows are offered up to the first that has a fault. -/
theorem offerRows_eq (r : Ranker) (rows : List Row) :
    r.offerRows rows = barring (rows.findSome? (Row.faultBeside? r.source.item))
      (r.offerAll (rows.filterMap (Row.candidate? r.source.item))) := by
  induction rows generalizing r with
  | nil => rfl
  | cons row rows ih =>
    have hstep : r.offerRows (row :: rows) = r.offerRow row >>= fun r => r.offerRows rows := rfl
    rw [hstep, offerRow_eq, List.findSome?_cons, List.filterMap_cons]
    cases hfault : row.faultBeside? r.source.item with
    | some fault => rfl
    | none =>
      show (r.offerAll _).offerRows rows = _
      rw [ih, source_offerAll]
      cases row.candidate? r.source.item <;> rfl

/-- The ranking of a table's rows is the sorted list of their scores, cut. -/
theorem scores_offerAll_candidates (source : Embedding) (n : Nat) (t : Table) :
    ((start source n).offerAll (t.filterMap (Row.candidate? source.item))).scores =
      (Score.sort (t.scores source)).take n := by
  rw [scores_offerAll_start, List.filterMap_filterMap, Table.scores]
  simp only [funext (Row.scoreFor?_eq source)]

end Ranker

namespace Store

variable {s : Store} {t : Table} {item : String} {n : Nat}

/-- What the store finds for an item is what can be read off its table. -/
theorem similar_eq (hs : s.reach = .ok t) (hindex : s.index = .scan) (item : String) (n : Nat) :
    (s.similar item n).map (·.scores) = t.similar item n := by
  unfold Store.similar Table.similar
  cases hrow : t.row? item with
  | none =>
    rw [get_eq_notFound.2 ⟨rfl, t, hs, Table.row?_eq_none.1 hrow⟩]
    rfl
  | some row =>
    have hget : s.get item = row.toEmbedding.mapError .encoding := get_of_row? hs hrow
    cases hread : row.toEmbedding with
    | error fault =>
      simp only [hget, hread]
      rfl
    | ok source =>
      obtain rfl : source.item = item :=
        (Row.item_of_toEmbedding hread).trans (Table.item_of_row? hrow)
      simp only [hget, hread, hindex]
      show (s.nearest source n).map _ = _
      unfold nearest
      by_cases hn : n = 0
      · rw [if_pos hn, if_pos hn]
        rfl
      · rw [if_neg hn, if_neg hn, hs]
        show ((Table.nearest source n t).mapError StoreError.encoding).map _ = _
        rw [Table.nearest, Ranker.offerRows_eq, ← Ranker.scores_offerAll_candidates]
        show (((barring (t.findSome? (Row.faultBeside? source.item)) _).map _).mapError _).map _ = _
        cases t.findSome? (Row.faultBeside? source.item) with
        | some fault => rfl
        | none => rfl

/-- A search among the rows succeeds if none of them has a fault. -/
theorem nearest_eq_ok (hs : s.reach = .ok t) {source : Embedding} {found : Nearest} :
    s.nearest source n = .ok found ↔ (n = 0 ∧ found = .ofScores source.item []) ∨
      n ≠ 0 ∧ (∀ r ∈ t, r.faultBeside? source.item = none) ∧
        found = ((Ranker.start source n).offerAll
          (t.filterMap (Row.candidate? source.item))).nearest := by
  unfold nearest
  by_cases hn : n = 0
  · simp [hn, eq_comm]
  · have hfaults : (∀ r ∈ t, r.faultBeside? source.item = none) ↔
        t.findSome? (Row.faultBeside? source.item) = none := List.findSome?_eq_none_iff.symm
    rw [if_neg hn, hs, hfaults]
    show (Table.nearest source n t).mapError StoreError.encoding = _ ↔ _
    rw [mapError_eq_ok, Table.nearest, map_eq_ok, Ranker.offerRows_eq]
    have hsource : (Ranker.start source n).source = source := rfl
    rw [hsource]
    cases t.findSome? (Row.faultBeside? source.item) with
    | some fault => simp [barring, hn]
    | none => simp [barring, hn, eq_comm]

/-- What a successful search has found. -/
theorem scores_of_similar (hs : s.reach = .ok t) (hindex : s.index = .scan) {found : Nearest}
    (h : s.similar item n = .ok found) :
    ∃ source, s.get item = .ok source ∧ found.scores = (Score.sort (t.scores source)).take n := by
  obtain ⟨source, hsource, -⟩ := bind_eq_ok.1 h
  refine ⟨source, hsource, ?_⟩
  have heq := similar_eq hs hindex item n
  rw [h] at heq
  obtain ⟨t', row, ht', hrow, hread⟩ := get_eq_ok.1 hsource
  rw [hs] at ht'
  cases ht'
  unfold Table.similar at heq
  simp only [hrow, read_eq_ok.1 hread] at heq
  split at heq
  · rename_i hn
    rw [hn, List.take_zero]
    exact Except.ok.inj heq
  · split at heq
    · cases heq
    · exact Except.ok.inj heq

/-- In a table whose rows can all be read, every search for a stored item succeeds, wherever nearest
items come from. -/
theorem exists_similar (hs : s.reach = .ok t) (hread : ∀ r ∈ t, ∃ e, read r = .ok e)
    (hitem : item ∈ t.items) (n : Nat) : ∃ found, s.similar item n = .ok found := by
  obtain ⟨row, hrow⟩ : ∃ row, t.row? item = some row := by
    rw [← Option.isSome_iff_exists, ← Option.ne_none_iff_isSome, ne_eq, Table.row?_eq_none]
    exact not_not_intro hitem
  obtain ⟨source, hsource⟩ := hread row (List.mem_of_find?_eq_some hrow)
  cases hindex : s.index with
  | listed scores =>
    have hget : s.get item = .ok source := (get_of_row? hs hrow).trans hsource
    refine ⟨.ofScores item ((scores.filter fun x => x.item ≠ item).take n), ?_⟩
    rw [Store.similar, hget, hindex]
    rfl
  | scan =>
    have hfaults : t.findSome? (Row.faultBeside? item) = none := by
      rw [List.findSome?_eq_none_iff]
      intro r hr
      obtain ⟨e, he⟩ := hread r hr
      obtain ⟨vector, hvector, -⟩ := bind_eq_ok.1 (read_eq_ok.1 he)
      rw [Row.faultBeside?, hvector]
      exact ite_self none
    have hsimilar : ∃ scores, t.similar item n = .ok scores := by
      rw [Table.similar, hrow]
      simp only [read_eq_ok.1 hsource, hfaults]
      by_cases hn : n = 0
      · exact ⟨[], if_pos hn⟩
      · exact ⟨_, if_neg hn⟩
    obtain ⟨scores, hscores⟩ := hsimilar
    rw [← similar_eq hs hindex] at hscores
    obtain ⟨found, hfound, -⟩ := map_eq_ok.1 hscores
    exact ⟨found, hfound⟩

/-- A search finds what can be read off the table as a whole. So it finds neither the item itself nor
any item twice, and as many as there are, up to `n`; and a larger search only finds more behind. -/
theorem similar_meets_table (hs : s.reach = .ok t) (ht : t.Distinct) (hindex : s.index = .scan)
    (item : String) (n : Nat) :
    (s.similar item n).map (·.scores) = t.similar item n ∧
    ∀ found, s.similar item n = .ok found →
      item ∉ found.scores.map (·.item) ∧ (found.scores.map (·.item)).Nodup ∧
      (∃ source, s.get item = .ok source ∧
        found.scores.length = min n (t.countP fun r => (r.scoreFor? source).isSome)) ∧
      ∀ m larger, n ≤ m → s.similar item m = .ok larger → found.scores <+: larger.scores := by
  refine ⟨similar_eq hs hindex item n, fun found hfound => ?_⟩
  obtain ⟨source, hsource, hscores⟩ := scores_of_similar hs hindex hfound
  have hperm : (Score.sort (t.scores source)).Perm (t.scores source) := List.mergeSort_perm _ _
  have hitem : source.item = item := by
    obtain ⟨t', row, -, hrow, hread⟩ := get_eq_ok.1 hsource
    rw [Row.item_of_toEmbedding (read_eq_ok.1 hread), Table.item_of_row? hrow]
  have hsublist : (found.scores.map (·.item)).Sublist ((Score.sort (t.scores source)).map (·.item)) := by
    rw [hscores]
    exact (List.take_sublist n _).map _
  refine ⟨?_, ?_, ⟨source, hsource, ?_⟩, ?_⟩
  · intro hmem
    rw [← hitem] at hmem
    exact t.item_notMem_scores source ((hperm.map _).subset (hsublist.subset hmem))
  · have hnodup : ((t.scores source).map (·.item)).Nodup := ht.sublist (t.sublist_items_scores source)
    exact ((hperm.map _).nodup_iff.2 hnodup).sublist hsublist
  · rw [hscores, List.length_take, hperm.length_eq, Table.scores, List.length_filterMap_eq_countP]
  · intro m larger hm hlarger
    obtain ⟨source', hsource', hscores'⟩ := scores_of_similar hs hindex hlarger
    rw [hsource] at hsource'
    cases hsource'
    rw [hscores, hscores']
    exact List.take_prefix_take_left hm

/-- Two rows that score the same, the better one behind the other, a row of another dimension, and
instants that cannot be read. -/
def tiedRows : Table := [⟨"d", "[2.0]", "?"⟩, ⟨"a", "[1.0]", "1970-01-01T00:00:00+00:00"⟩,
  ⟨"c", "[1.0,0.0]", "?"⟩, ⟨"b", "[3.0]", "?"⟩]

/-- A store of these rows. -/
def tied : Store := (Store.empty none).withTable tiedRows

theorem similar_meets_table_tied :
    tied.reach = .ok tiedRows ∧ tiedRows.Distinct ∧ tied.index = .scan ∧
      tiedRows.similar "a" 1 = .ok [⟨"b", .one⟩] ∧
      ∃ larger, tied.similar "a" 3 = .ok larger ∧ [⟨"b", .one⟩] <+: larger.scores := by
  have hs : tied.reach = .ok tiedRows := rfl
  have ht : tiedRows.Distinct := by
    show tiedRows.items.Nodup
    decide
  have hfound : tied.similar "a" 1 = .ok ⟨"a", [⟨"b", .one⟩], 1⟩ := by decide +kernel
  have hlarger : tied.similar "a" 3 = .ok ⟨"a", [⟨"b", .one⟩, ⟨"d", .one⟩], 1⟩ := by decide +kernel
  obtain ⟨heq, hall⟩ := similar_meets_table hs ht rfl "a" 1
  obtain ⟨-, -, -, hmore⟩ := hall _ hfound
  refine ⟨hs, ht, rfl, ?_, _, hlarger, hmore 3 _ (by decide) hlarger⟩
  rw [← heq, hfound]
  rfl

end Store

end SimilarItems
