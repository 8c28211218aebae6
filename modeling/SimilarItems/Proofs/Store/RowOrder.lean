import Mathlib.Data.List.Dedup
import SimilarItems.Proofs.Store.History
import SimilarItems.Proofs.Store.Similar

/-!
# The order of rows does not show

The order in which a table has its rows tells how it came about: a row that was replaced kept its
place, and one that was deleted and written again came last. No answer depends on that order. Only if
a search fails for another row's vector, which one it names is the first in the table.
-/

namespace SimilarItems

namespace Store

variable {s s' : Store} {t t' : Table}

theorem get_of_perm (hs : s.reach = .ok t) (hs' : s'.reach = .ok t') (h : t.Distinct)
    (hp : t.Perm t') (item : String) : s.get item = s'.get item := by
  simp only [get, hs, hs', bind, Except.bind, Table.row?_of_perm h hp]

theorem getMany_of_perm (hs : s.reach = .ok t) (hs' : s'.reach = .ok t') (h : t.Distinct)
    (hp : t.Perm t') (items : List String) : s.getMany items = s'.getMany items := by
  have hchunk : s.getChunk = s'.getChunk := by
    funext found chunk
    simp only [getChunk, hs, hs', bind, Except.bind, Table.rowsOf, Table.sorted_of_perm h hp]
  rw [getMany, getMany, hchunk]

theorem scan_of_perm (hs : s.reach = .ok t) (hs' : s'.reach = .ok t') (h : t.Distinct)
    (hp : t.Perm t') (offset : Nat) (limit : Option Nat) :
    s.scan offset limit = s'.scan offset limit := by
  simp only [scan, hs, hs', bind, Except.bind, Table.page, Table.sorted_of_perm h hp]

/-- Whether some row has a fault does not depend on the order of the rows, and neither does what a
bounded ranking keeps of them. -/
theorem nearest_of_perm (hs : s.reach = .ok t) (hs' : s'.reach = .ok t') (hp : t.Perm t')
    (source : Embedding) (n : Nat) (found : Nearest) :
    s.nearest source n = .ok found ↔ s'.nearest source n = .ok found := by
  have hcandidates := hp.filterMap (Row.candidate? source.item)
  rw [nearest_eq_ok hs, nearest_eq_ok hs', Ranker.offerAll_start_of_perm source n hcandidates]
  simp only [hp.mem_iff]

theorem similar_of_perm (hs : s.reach = .ok t) (hs' : s'.reach = .ok t') (h : t.Distinct)
    (hp : t.Perm t') (hindex : s.index = s'.index) (item : String) (n : Nat) (found : Nearest) :
    s.similar item n = .ok found ↔ s'.similar item n = .ok found := by
  rw [similar, similar, get_of_perm hs hs' h hp, hindex, bind_eq_ok, bind_eq_ok]
  refine exists_congr fun source => and_congr_right fun _ => ?_
  cases s'.index with
  | scan => exact nearest_of_perm hs hs' hp source n found
  | listed scores => exact Iff.rfl

/-- Two stores give the same answers. Of searches for similar items this holds of those that succeed,
and both stores succeed with the same ones. -/
structure SameAnswers (s s' : Store) : Prop where
  get : ∀ item, s.get item = s'.get item
  getMany : ∀ items, s.getMany items = s'.getMany items
  scan : ∀ offset limit, s.scan offset limit = s'.scan offset limit
  similar : ∀ item n found, s.similar item n = .ok found ↔ s'.similar item n = .ok found

theorem sameAnswers_of_perm (hs : s.reach = .ok t) (hs' : s'.reach = .ok t') (h : t.Distinct)
    (hp : t.Perm t') (hindex : s.index = s'.index) : s.SameAnswers s' :=
  ⟨get_of_perm hs hs' h hp, getMany_of_perm hs hs' h hp, scan_of_perm hs hs' h hp,
    similar_of_perm hs hs' h hp hindex⟩

end Store

namespace History

/-- A table has exactly the rows of what was written last. -/
theorem Holds.mem_iff {h : History} {t : Table} (hh : h.Holds t) (r : Row) :
    r ∈ t ↔ ∃ w, h.written r.item = some w ∧ Row.ofEmbedding w = .ok r := by
  constructor
  · intro hr
    exact hh.exists_written (Table.row?_of_mem hh.distinct hr)
  · rintro ⟨w, hw, hrow⟩
    obtain ⟨r', hr', hrow'⟩ := hh.exists_row hw
    rw [hrow] at hrow'
    cases hrow'
    exact List.mem_of_find?_eq_some hr'

/-- Histories that have written the same last for every item leave stores that give the same
answers. -/
theorem sameAnswers_after {s s' : Store} (hs : s.reach = .ok []) (hs' : s'.reach = .ok [])
    (hindex : s.index = s'.index) (changes changes' : List Change)
    (hwritten : (after s changes).written = (after s' changes').written) :
    (after s changes).store.SameAnswers (after s' changes').store := by
  obtain ⟨t, hh⟩ := holds_after hs changes
  obtain ⟨t', hh'⟩ := holds_after hs' changes'
  have hrows : ∀ r, r ∈ t ↔ r ∈ t' := by
    intro r
    rw [hh.mem_iff, hh'.mem_iff, hwritten]
  refine Store.sameAnswers_of_perm hh.reach hh'.reach hh.distinct
    (Table.perm_of_mem_iff hh.distinct hh'.distinct hrows) ?_
  rw [index_after, index_after, hindex]

end History

namespace Store

/-- Two stores whose tables have the same rows, in whatever orders and whatever the rows hold, give
the same answers. -/
theorem sameAnswers_of_same_rows {s s' : Store} {t t' : Table} (hs : s.reach = .ok t)
    (hs' : s'.reach = .ok t') (h : t.Distinct) (h' : t'.Distinct) (hrows : ∀ r, r ∈ t ↔ r ∈ t')
    (hindex : s.index = s'.index) : s.SameAnswers s' :=
  sameAnswers_of_perm hs hs' h (Table.perm_of_mem_iff h h' hrows) hindex

/-- A component whose square overflows. -/
def overflowing : Binary64 := .ofBits 0x6974e718d7d7625a

/-- Rows of which, for the first one, two score the same zero, one its opposite and one a NaN. -/
def zeroRows : Table := [
  ⟨"a", "[1e+200]", "1970-01-01T00:00:00+00:00"⟩,
  ⟨"b", "[1e+200]", "1970-01-01T00:00:00+00:00"⟩,
  ⟨"c", "[1.0]", "1970-01-01T00:00:00+00:00"⟩,
  ⟨"d", "[-1.0]", "1970-01-01T00:00:00+00:00"⟩,
  ⟨"e", "[1.0]", "1970-01-01T00:00:00+00:00"⟩]

/-- Writes that lead to the same rows in another order: one item is written twice, and one deleted and
written again. -/
def roundabout : List Change := [
  .putMany [⟨"e", [.one], ⟨0, 0⟩⟩, ⟨"d", [.neg .one], ⟨0, 0⟩⟩],
  .put ⟨"c", [.one, .one], ⟨0, 0⟩⟩,
  .put ⟨"b", [overflowing], ⟨0, 0⟩⟩,
  .put ⟨"c", [.one], ⟨0, 0⟩⟩,
  .delete "e",
  .putMany [⟨"a", [overflowing], ⟨0, 0⟩⟩, ⟨"e", [.one], ⟨0, 0⟩⟩]]

theorem sameAnswers_of_same_rows_roundabout :
    ∃ t, (History.after (.empty none) roundabout).store.reach = .ok t ∧ t ≠ zeroRows ∧
      (∀ r, r ∈ zeroRows ↔ r ∈ t) ∧
      ((Store.empty none).withTable zeroRows).SameAnswers
        (History.after (.empty none) roundabout).store ∧
      (History.after (.empty none) roundabout).store.similar "a" 1 =
        .ok ⟨"a", [⟨"c", .zero false⟩], 0⟩ := by
  have hs : ((Store.empty none).withTable zeroRows).reach = .ok zeroRows := rfl
  obtain ⟨t, ht⟩ := History.holds_after (s := .empty none) rfl roundabout
  have hrows : t = [zeroRows[3], zeroRows[2], zeroRows[1], zeroRows[0], zeroRows[4]] :=
    Except.ok.inj (ht.reach.symm.trans (by decide +kernel))
  have hperm : zeroRows.Perm t := by
    rw [hrows]
    decide +kernel
  have hdistinct : zeroRows.Distinct := by
    show zeroRows.items.Nodup
    decide
  have hsame := sameAnswers_of_same_rows hs ht.reach hdistinct ht.distinct (fun r => hperm.mem_iff)
    (History.index_after (.empty none) roundabout).symm
  refine ⟨t, ht.reach, by rw [hrows]; decide, fun r => hperm.mem_iff, hsame, ?_⟩
  rw [← hsame.similar]
  decide +kernel

end Store

end SimilarItems
