import Mathlib.Algebra.Group.Int.Defs
import SimilarItems.Proofs.Store.Operations
import SimilarItems.Proofs.Text.Bytes
import SimilarItems.Store.Page

/-!
# Pages of a table

A page has the rows by rising item without those left out, and at most as many as wanted: that the
numbers are narrowed shows nowhere. So pages that are read one after the other, up to an empty one,
have every row once.
-/

namespace SimilarItems

/-! ## Narrowed numbers -/

namespace PageQuery

theorem toInt_toInt64 (n : UInt64) :
    n.toInt64.toInt = if n.toNat < 2 ^ 63 then (n.toNat : Int) else n.toNat - 2 ^ 64 := by
  have hlt := n.toNat_lt
  have hmod : n.toInt64.toInt = (n.toNat : Int).bmod (2 ^ 64) := BitVec.toInt_eq_toNat_bmod _
  rw [hmod, Int.bmod_def]
  split_ifs <;> omega

theorem toInt_narrow (n : UInt64) : (narrow n).toInt = min (n.toNat : Int) (2 ^ 63 - 1) := by
  have hsigned := toInt_toInt64 n
  have hlt := n.toNat_lt
  unfold narrow
  split
  · rename_i hneg
    rw [Int64.lt_iff_toInt_lt, Int64.toInt_zero] at hneg
    rw [Int64.toInt_maxValue]
    split_ifs at hsigned <;> omega
  · rename_i hneg
    rw [Int64.lt_iff_toInt_lt, Int64.toInt_zero] at hneg
    split_ifs at hsigned <;> omega

theorem toNatClampNeg_narrow (n : UInt64) :
    (narrow n).toNatClampNeg = min n.toNat (2 ^ 63 - 1) := by
  rw [Int64.toNatClampNeg, toInt_narrow]
  omega

theorem not_narrow_lt_zero (n : UInt64) : ¬ narrow n < 0 := by
  rw [Int64.lt_iff_toInt_lt, toInt_narrow, Int64.toInt_zero]
  omega

variable {α : Type} {l : List α}

/-- A list that is not too long ends before the largest number that fits. -/
theorem drop_narrow (h : l.length < 2 ^ 63) (n : UInt64) :
    l.drop (narrow n).toNatClampNeg = l.drop n.toNat := by
  rw [toNatClampNeg_narrow]
  rcases Nat.lt_or_ge n.toNat (2 ^ 63) with hn | hn
  · rw [Nat.min_eq_left (by omega)]
  · rw [List.drop_eq_nil_of_le (by omega), List.drop_eq_nil_of_le (by omega)]

theorem take_narrow (h : l.length < 2 ^ 63) (n : UInt64) :
    l.take (narrow n).toNatClampNeg = l.take n.toNat := by
  rw [toNatClampNeg_narrow]
  rcases Nat.lt_or_ge n.toNat (2 ^ 63) with hn | hn
  · rw [Nat.min_eq_left (by omega)]
  · rw [List.take_of_length_le (by omega), List.take_of_length_le (by omega)]

end PageQuery

theorem Table.page_eq_slice (offset : Nat) (limit : Option Nat) (t : Table) :
    t.page offset limit = slice offset limit t.sorted := by
  cases limit <;> rfl

/-- The table has the page that is wanted. -/
theorem Table.select_eq_page {t : Table} (h : t.length < 2 ^ 63) (offset : UInt64)
    (limit : Option UInt64) :
    t.select (.ofUnsigned offset limit) = t.page offset.toNat (limit.map UInt64.toNat) := by
  have hlength : t.sorted.length < 2 ^ 63 := by rwa [t.perm_sorted.length_eq]
  have hdrop := PageQuery.drop_narrow hlength offset
  cases limit with
  | none =>
    have hneg : (-1 : Int64) < 0 := by decide
    simp only [select, PageQuery.ofUnsigned, hdrop, if_pos hneg]
    rfl
  | some n =>
    have hrest : (t.sorted.drop offset.toNat).length < 2 ^ 63 := by
      rw [List.length_drop]
      omega
    simp only [select, PageQuery.ofUnsigned, hdrop, if_neg (PageQuery.not_narrow_lt_zero n),
      PageQuery.take_narrow hrest]
    rfl

namespace Store

variable {s : Store} {t : Table}

theorem scanPage_eq (hs : s.reach = .ok t) (hsize : t.length < 2 ^ 63) (offset : UInt64)
    (limit : Option UInt64) : s.scanPage offset limit =
      (slice offset.toNat (limit.map UInt64.toNat) t.sorted).mapM read := by
  rw [← Table.page_eq_slice, ← Table.select_eq_page hsize, scanPage, hs]
  rfl

theorem read_eq_error {r : Row} {e : StoreError} :
    read r = .error e ↔ ∃ fault, r.toEmbedding = .error fault ∧ e = .encoding fault := by
  rw [read, mapError_eq_error]
  simp only [eq_comm]

theorem scanPage_eq_scan (hs : s.reach = .ok t) (hsize : t.length < 2 ^ 63) (offset : UInt64)
    (limit : Option UInt64) :
    s.scanPage offset limit = s.scan offset.toNat (limit.map UInt64.toNat) := by
  rw [scanPage_eq hs hsize, scan, hs, ← Table.page_eq_slice]
  rfl

theorem scanPage_eq_ok (hs : s.reach = .ok t) (hsize : t.length < 2 ^ 63) {offset : UInt64}
    {limit : Option UInt64} {page : List Embedding} :
    s.scanPage offset limit = .ok page ↔
      List.Forall₂ (fun r e => r.toEmbedding = .ok e)
        (slice offset.toNat (limit.map UInt64.toNat) t.sorted) page := by
  rw [scanPage_eq hs hsize, mapM_eq_ok]
  simp only [read_eq_ok]

/-- A page fails at its first row that is not read. -/
theorem scanPage_eq_error (hs : s.reach = .ok t) (hsize : t.length < 2 ^ 63) {offset : UInt64}
    {limit : Option UInt64} {e : StoreError} :
    s.scanPage offset limit = .error e ↔ ∃ before r after fault,
      slice offset.toNat (limit.map UInt64.toNat) t.sorted = before ++ r :: after ∧
      (∀ x ∈ before, ∃ y, x.toEmbedding = .ok y) ∧
      r.toEmbedding = .error fault ∧ e = .encoding fault := by
  rw [scanPage_eq hs hsize, mapM_eq_error]
  simp only [read_eq_ok, read_eq_error]
  constructor
  · rintro ⟨before, r, after, hslice, hbefore, fault, hr, he⟩
    exact ⟨before, r, after, fault, hslice, hbefore, hr, he⟩
  · rintro ⟨before, r, after, fault, hslice, hbefore, hr, he⟩
    exact ⟨before, r, after, hslice, hbefore, fault, hr, he⟩

/-! ## One page after the other -/

/-- Pages of a size that are read one after the other from an offset on, each as far on as the last
one was long, up to the first empty one. -/
inductive Paging (s : Store) (size : UInt64) : UInt64 → List (List Embedding) → Prop
  | last {offset : UInt64} (h : s.scanPage offset (some size) = .ok []) : Paging s size offset []
  | more {offset : UInt64} {page : List Embedding} {pages : List (List Embedding)}
      (h : s.scanPage offset (some size) = .ok page) (hne : page ≠ [])
      (rest : Paging s size (offset + .ofNat page.length) pages) :
      Paging s size offset (page :: pages)

/-- There is at most one way to read on. -/
theorem Paging.unique {size offset : UInt64} {pages pages' : List (List Embedding)}
    (h : Paging s size offset pages) (h' : Paging s size offset pages') : pages = pages' := by
  induction h generalizing pages' with
  | last h =>
    cases h' with
    | last => rfl
    | more h' hne =>
      rw [h] at h'
      cases h'
      exact absurd rfl hne
  | more h hne _ ih =>
    cases h' with
    | last h' =>
      rw [h] at h'
      cases h'
      exact absurd rfl hne
    | more h' _ rest' =>
      rw [h] at h'
      cases h'
      rw [ih rest']

variable {es : List Embedding}

theorem forall₂_slice {α β : Type} {R : α → β → Prop} {l : List α} {l' : List β}
    (h : List.Forall₂ R l l') (offset : Nat) (limit : Option Nat) :
    List.Forall₂ R (slice offset limit l) (slice offset limit l') := by
  cases limit with
  | none => exact List.forall₂_drop offset h
  | some n => exact List.forall₂_take n (List.forall₂_drop offset h)

/-- If all rows are read, a page has what is read of its rows. -/
theorem scanPage_of_forall₂ (hs : s.reach = .ok t) (hsize : t.length < 2 ^ 63)
    (hes : List.Forall₂ (fun r e => r.toEmbedding = .ok e) t.sorted es) (offset : UInt64)
    (limit : Option UInt64) :
    s.scanPage offset limit = .ok (slice offset.toNat (limit.map UInt64.toNat) es) :=
  (scanPage_eq_ok hs hsize).2 (forall₂_slice hes _ _)

/-- The pages from an offset on have all the embeddings that follow. The induction is on how many
these are: a page that is not empty leaves fewer. -/
theorem exists_paging {size : UInt64} (hpos : 1 ≤ size) (hlength : es.length < 2 ^ 63)
    (hpage : ∀ offset, s.scanPage offset (some size) =
      .ok ((es.drop offset.toNat).take size.toNat)) {offset : UInt64}
    (hoffset : offset.toNat ≤ es.length) :
    ∃ pages, Paging s size offset pages ∧ pages.flatten = es.drop offset.toNat := by
  have hsize : 1 ≤ size.toNat := UInt64.le_iff_toNat_le.1 hpos
  generalize hrest : es.drop offset.toNat = rest
  induction hn : rest.length using Nat.strong_induction_on generalizing offset rest with
  | _ n ih =>
    have hfirst := hpage offset
    have hrestlength : rest.length = es.length - offset.toNat := by
      rw [← hrest, List.length_drop]
    have hprefix : rest.take size.toNat ++ rest.drop (rest.take size.toNat).length = rest :=
      List.prefix_iff_eq_append.1 (List.take_prefix _ _)
    have hpagelength : (rest.take size.toNat).length = min size.toNat rest.length :=
      List.length_take
    rw [hrest] at hfirst
    generalize rest.take size.toNat = page at hfirst hprefix hpagelength
    by_cases hend : page = []
    · subst hend
      refine ⟨[], .last hfirst, ?_⟩
      rw [List.length_nil] at hpagelength
      rw [List.eq_nil_of_length_eq_zero (by omega : rest.length = 0)]
      rfl
    · have hlong := List.length_pos_of_ne_nil hend
      have hnext : (offset + .ofNat page.length).toNat = offset.toNat + page.length := by
        rw [UInt64.toNat_add, UInt64.toNat_ofNat']
        omega
      have hdrop : es.drop (offset + .ofNat page.length).toNat = rest.drop page.length := by
        rw [hnext, ← List.drop_drop, hrest]
      obtain ⟨pages, hpages, hflatten⟩ := ih (rest.drop page.length).length
        (by rw [List.length_drop]; omega) (by omega) _ hdrop rfl
      refine ⟨page :: pages, .more hfirst hend hpages, ?_⟩
      rw [List.flatten_cons, hflatten, hprefix]

/-- If all rows are read, there is one way to read page by page, and it has what one page without a
limit has. -/
theorem exists_pages (hs : s.reach = .ok t) (hsize : t.length < 2 ^ 63)
    (hread : ∀ r ∈ t, ∃ e, r.toEmbedding = .ok e) {size : UInt64} (hpos : 1 ≤ size) :
    ∃ pages, (∀ pages', Paging s size 0 pages' ↔ pages' = pages) ∧
      s.scanPage 0 none = .ok pages.flatten ∧
      List.Forall₂ (fun r e => r.toEmbedding = .ok e) t.sorted pages.flatten := by
  have hsorted : ∀ r ∈ t.sorted, ∃ e, read r = .ok e ∧ True := by
    intro r hr
    obtain ⟨e, he⟩ := hread r (t.perm_sorted.subset hr)
    exact ⟨e, read_eq_ok.2 he, trivial⟩
  obtain ⟨es, hes, -⟩ := exists_mapM_read t.sorted hsorted
  have hforall : List.Forall₂ (fun r e => r.toEmbedding = .ok e) t.sorted es := by
    simpa only [read_eq_ok] using mapM_eq_ok.1 hes
  have hlength : es.length < 2 ^ 63 := by
    rw [← hforall.length_eq, t.perm_sorted.length_eq]
    exact hsize
  have hfront : (0 : UInt64).toNat ≤ es.length := Nat.zero_le _
  obtain ⟨pages, hpages, hflatten⟩ := exists_paging hpos hlength
    (fun offset => scanPage_of_forall₂ hs hsize hforall offset (some size)) hfront
  have hall : pages.flatten = es := hflatten
  refine ⟨pages, fun pages' => ⟨fun h => h.unique hpages, fun h => h ▸ hpages⟩, ?_, ?_⟩
  · rw [hall]
    exact scanPage_of_forall₂ hs hsize hforall 0 none
  · rw [hall]
    exact hforall

/-- A table that can be reached and has fewer than `2 ^ 63` rows has an order by rising bytes of the
items. Any page is a slice of it, as far as its rows are read, and fails at the first row that is
not. If all rows are read, pages of any size, one after the other up to an empty one, have every row
once. -/
theorem scanPage_pages (hs : s.reach = .ok t) (ht : t.Distinct) (hsize : t.length < 2 ^ 63) :
    ∃ rows : List Row, rows.Perm t ∧
      rows.Pairwise (fun a b => Text.bytes a.item < Text.bytes b.item) ∧
      (∀ (offset : UInt64) (limit : Option UInt64),
        s.scanPage offset limit = s.scan offset.toNat (limit.map UInt64.toNat) ∧
        (∀ page, s.scanPage offset limit = .ok page ↔
          List.Forall₂ (fun r e => r.toEmbedding = .ok e)
            (slice offset.toNat (limit.map UInt64.toNat) rows) page) ∧
        ∀ e, s.scanPage offset limit = .error e ↔ ∃ before r after fault,
          slice offset.toNat (limit.map UInt64.toNat) rows = before ++ r :: after ∧
          (∀ x ∈ before, ∃ y, x.toEmbedding = .ok y) ∧
          r.toEmbedding = .error fault ∧ e = .encoding fault) ∧
      ((∀ r ∈ t, ∃ e, r.toEmbedding = .ok e) → ∀ size : UInt64, 1 ≤ size →
        ∃ pages, (∀ pages', Paging s size 0 pages' ↔ pages' = pages) ∧
          s.scanPage 0 none = .ok pages.flatten ∧
          List.Forall₂ (fun r e => r.toEmbedding = .ok e) rows pages.flatten) := by
  refine ⟨t.sorted, t.perm_sorted, ?_, fun offset limit => ⟨?_, fun page => ?_, fun e => ?_⟩, ?_⟩
  · have hrising := Table.rising_sorted ht
    rw [Table.items, List.pairwise_map] at hrising
    exact hrising.imp fun h => Text.bytes_lt_bytes h
  · exact scanPage_eq_scan hs hsize offset limit
  · exact scanPage_eq_ok hs hsize
  · exact scanPage_eq_error hs hsize
  · intro hread size hpos
    exact exists_pages hs hsize hread hpos

/-- Three rows that did not come in the order of their items. -/
def unsortedRows : Table := [
  ⟨"c", "[1.0]", "1970-01-01T00:00:00+00:00"⟩,
  ⟨"a", "[]", "1970-01-01T00:00:00+00:00"⟩,
  ⟨"b", "[2.0]", "1970-01-01T00:00:00+00:00"⟩]

theorem scanPage_pages_unsortedRows :
    ((Store.empty none).withTable unsortedRows).scanPage 1 (some 18446744073709551615) =
      .ok [⟨"b", [.ofBits 0x4000000000000000], ⟨0, 0⟩⟩, ⟨"c", [.one], ⟨0, 0⟩⟩] ∧
    ∃ pages, Paging ((Store.empty none).withTable unsortedRows) 2 0 pages ∧
      pages.flatten = [⟨"a", [], ⟨0, 0⟩⟩, ⟨"b", [.ofBits 0x4000000000000000], ⟨0, 0⟩⟩,
        ⟨"c", [.one], ⟨0, 0⟩⟩] := by
  have hs : ((Store.empty none).withTable unsortedRows).reach = .ok unsortedRows := rfl
  have ht : unsortedRows.Distinct := by
    unfold Table.Distinct
    decide
  have hsize : unsortedRows.length < 2 ^ 63 := by decide
  have hsorted : unsortedRows.sorted = [unsortedRows[1], unsortedRows[2], unsortedRows[0]] := by
    rw [Table.sorted_of_perm ht (by decide : unsortedRows.Perm
      [unsortedRows[1], unsortedRows[2], unsortedRows[0]]), Table.sorted_of_rising (by decide)]
  have hread : ∀ r ∈ unsortedRows, ∃ e, r.toEmbedding = .ok e := by
    intro r hr
    have hsome : ∀ r ∈ unsortedRows, r.toEmbedding.toOption.isSome := by decide +kernel
    obtain ⟨e, he⟩ := Option.isSome_iff_exists.1 (hsome r hr)
    exact ⟨e, toOption_eq_some.1 he⟩
  obtain ⟨rows, -, -, -, hpages⟩ := scanPage_pages hs ht hsize
  obtain ⟨pages, hpaging, hflatten, -⟩ := hpages hread 2 (by decide)
  rw [scanPage_eq hs hsize, hsorted] at hflatten ⊢
  refine ⟨by decide +kernel, pages, (hpaging pages).2 rfl, ?_⟩
  exact Except.ok.inj (hflatten.symm.trans (by decide +kernel))

end Store

end SimilarItems
