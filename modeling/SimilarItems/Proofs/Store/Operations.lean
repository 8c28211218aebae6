import SimilarItems.Proofs.Failure
import SimilarItems.Proofs.Keyed
import SimilarItems.Proofs.Store.Table
import SimilarItems.Store.Basic

/-!
# What the operations of a store do

For each operation, when it succeeds and what it gives, in terms of the table that can be reached.
-/

namespace SimilarItems

theorem Row.item_of_toEmbedding {r : Row} {e : Embedding} (h : r.toEmbedding = .ok e) :
    e.item = r.item := by
  rw [toEmbedding] at h
  obtain ⟨vector, -, h⟩ := bind_eq_ok.1 h
  obtain ⟨updated, -, h⟩ := bind_eq_ok.1 h
  cases h
  rfl

theorem Row.item_of_ofEmbedding {r : Row} {e : Embedding} (h : ofEmbedding e = .ok r) :
    r.item = e.item := by
  obtain ⟨vector, -, rfl⟩ := map_eq_ok.1 h
  rfl

namespace Store

theorem read_eq_ok {r : Row} {e : Embedding} : read r = .ok e ↔ r.toEmbedding = .ok e :=
  mapError_eq_ok

theorem reach_eq_ok {s : Store} {t : Table} :
    s.reach = .ok t ↔ s.closed = false ∧ s.table = some t := by
  rw [reach]
  cases s.closed with
  | true => simp
  | false => cases s.table <;> simp

theorem reach_withTable {s : Store} {t : Table} (h : s.reach = .ok t) (t' : Table) :
    (s.withTable t').reach = .ok t' := by
  rw [reach_eq_ok] at h ⊢
  exact ⟨h.1, rfl⟩

/-- What is written is the row of the embedding. -/
theorem ofEmbedding_of_rowFor {s : Store} {e : Embedding} {row : Row} (h : s.rowFor e = .ok row) :
    Row.ofEmbedding e = .ok row := by
  obtain ⟨-, -, hrow⟩ := bind_eq_ok.1 h
  exact mapError_eq_ok.1 hrow

theorem item_of_rowFor {s : Store} {e : Embedding} {row : Row} (h : s.rowFor e = .ok row) :
    row.item = e.item := Row.item_of_ofEmbedding (ofEmbedding_of_rowFor h)

theorem put_eq_ok {s s' : Store} {e : Embedding} :
    s.put e = .ok s' ↔ ∃ row t, s.rowFor e = .ok row ∧ s.reach = .ok t ∧
      s' = s.withTable (Table.upsert row t) := by
  rw [put, bind_eq_ok]
  constructor
  · rintro ⟨row, hrow, h⟩
    obtain ⟨t, ht, h⟩ := bind_eq_ok.1 h
    exact ⟨row, t, hrow, ht, (Except.ok.inj h).symm⟩
  · rintro ⟨row, t, hrow, ht, rfl⟩
    exact ⟨row, hrow, bind_eq_ok.2 ⟨t, ht, rfl⟩⟩

/-- A transaction checks and encodes an embedding as a single write does. -/
theorem putEach_cons (s : Store) (seen : Option Table) (e : Embedding) (es : List Embedding) :
    s.putEach seen (e :: es) = s.rowFor e >>= fun row =>
      match seen with
      | none => .error (.storage .noTable)
      | some t => s.putEach (some (Table.upsert row t)) es := by
  rw [putEach, rowFor]
  cases s.checkDimension e <;> rfl

/-- What a transaction makes of its table is what the single writes make of it. -/
theorem foldlM_put_eq {s : Store} (hopen : s.closed = false) (seen : Option Table)
    (es : List Embedding) :
    es.foldlM put { s with table := seen } =
      (s.putEach seen es).map fun seen' => { s with table := seen' } := by
  induction es generalizing seen with
  | nil => rfl
  | cons e es ih =>
    rw [List.foldlM_cons, putEach_cons]
    -- The row does not depend on the table, so it is the same in either store.
    cases hrow : s.rowFor e with
    | error error =>
      have hput : put { s with table := seen } e = .error error := bind_eq_error.2 (.inl hrow)
      rw [hput]
      rfl
    | ok row =>
      cases seen with
      | none =>
        have hreach : reach { s with table := none } = .error (.storage .noTable) := by
          simp [reach, hopen]
        have hput : put { s with table := none } e = .error (.storage .noTable) :=
          bind_eq_error.2 (.inr ⟨row, hrow, bind_eq_error.2 (.inl hreach)⟩)
        rw [hput]
        rfl
      | some t =>
        have hput : put { s with table := some t } e =
            .ok { s with table := some (Table.upsert row t) } :=
          put_eq_ok.2 ⟨row, t, hrow, reach_eq_ok.2 ⟨hopen, rfl⟩, rfl⟩
        rw [hput]
        exact ih (some (Table.upsert row t))

/-- A batch comes to the single writes one after another. -/
theorem putMany_eq_foldlM {s : Store} (hopen : s.closed = false) (es : List Embedding) :
    s.putMany es = es.foldlM put s := by
  cases es with
  | nil => rfl
  | cons e es =>
    rw [putMany, if_neg (by simp), if_neg (by simp [hopen])]
    refine Eq.trans ?_ (foldlM_put_eq hopen s.table (e :: es)).symm
    cases s.putEach s.table (e :: es) <;> rfl

theorem foldlM_put_of_putMany {s s' : Store} {es : List Embedding} (h : s.putMany es = .ok s') :
    es.foldlM put s = .ok s' := by
  cases hc : s.closed with
  | false => rwa [putMany_eq_foldlM hc] at h
  | true =>
    rw [putMany, hc] at h
    cases es with
    | nil => exact h
    | cons e es => cases h

theorem delete_eq_ok {s s' : Store} {item : String} :
    s.delete item = .ok s' ↔ ∃ t, s.reach = .ok t ∧ s' = s.withTable (Table.delete item t) := by
  rw [delete, bind_eq_ok]
  constructor
  · rintro ⟨t, ht, h⟩
    exact ⟨t, ht, (Except.ok.inj h).symm⟩
  · rintro ⟨t, ht, rfl⟩
    exact ⟨t, ht, rfl⟩

theorem get_eq_ok {s : Store} {item : String} {e : Embedding} :
    s.get item = .ok e ↔ ∃ t row, s.reach = .ok t ∧ Table.row? item t = some row ∧
      read row = .ok e := by
  rw [get, bind_eq_ok]
  constructor
  · rintro ⟨t, ht, h⟩
    split at h
    · cases h
    · exact ⟨t, _, ht, ‹_›, h⟩
  · rintro ⟨t, row, ht, hrow, h⟩
    exact ⟨t, ht, by rw [hrow]; exact h⟩

theorem get_of_row? {s : Store} {t : Table} {item : String} {r : Row} (ht : s.reach = .ok t)
    (hr : t.row? item = some r) : s.get item = read r := by
  simp only [get, ht, hr, bind, Except.bind]

theorem item_of_get {s : Store} {item : String} {e : Embedding} (h : s.get item = .ok e) :
    e.item = item := by
  obtain ⟨t, row, -, hrow, hread⟩ := get_eq_ok.1 h
  rw [Row.item_of_toEmbedding (read_eq_ok.1 hread), Table.item_of_row? hrow]

theorem mem_items_of_get {s : Store} {t : Table} (ht : s.reach = .ok t) {item : String}
    {e : Embedding} (h : s.get item = .ok e) : item ∈ t.items := by
  obtain ⟨t', row, ht', hrow, -⟩ := get_eq_ok.1 h
  rw [ht] at ht'
  cases ht'
  by_contra hno
  rw [Table.row?_eq_none.2 hno] at hrow
  cases hrow

/-- Only an item without a row is not found. -/
theorem get_eq_notFound {s : Store} {item x : String} :
    s.get item = .error (.notFound x) ↔ x = item ∧ ∃ t, s.reach = .ok t ∧ item ∉ t.items := by
  rw [get, bind_eq_error]
  constructor
  · rintro (h | ⟨t, ht, h⟩)
    · rw [reach] at h
      split at h
      · cases h
      · split at h <;> cases h
    · split at h
      · cases h
        exact ⟨rfl, t, ht, Table.row?_eq_none.1 ‹_›⟩
      · obtain ⟨fault, -, hfault⟩ := mapError_eq_error.1 h
        cases hfault
  · rintro ⟨rfl, t, ht, hx⟩
    refine .inr ⟨t, ht, ?_⟩
    rw [Table.row?_eq_none.2 hx]

/-- A page of embeddings has the items of the page of rows. -/
theorem scan_eq_ok {s : Store} {offset : Nat} {limit : Option Nat} {page : List Embedding} :
    s.scan offset limit = .ok page ↔ ∃ t, s.reach = .ok t ∧
      List.Forall₂ (fun r e => read r = .ok e) (Table.page offset limit t) page := by
  rw [scan, bind_eq_ok]
  simp only [mapM_eq_ok]

theorem scan_of_rising {s : Store} {t : Table} (ht : s.reach = .ok t)
    (h : t.items.Pairwise (· < ·)) (offset : Nat) (limit : Option Nat) :
    s.scan offset limit = (slice offset limit t).mapM read := by
  have hpage : Table.page offset limit t = slice offset limit t := by
    unfold Table.page
    rw [Table.sorted_of_rising h]
    rfl
  rw [scan, ht, ← hpage]
  rfl

theorem items_of_forall₂_read {rows : List Row} {page : List Embedding}
    (h : List.Forall₂ (fun r e => read r = .ok e) rows page) :
    page.map (·.item) = Table.items rows := by
  induction h with
  | nil => rfl
  | cons hread _ ih =>
    rw [List.map_cons, Row.item_of_toEmbedding (read_eq_ok.1 hread), ih]
    rfl

/-- A page has a slice of the items by rising order. -/
theorem items_of_scan {s : Store} {t : Table} (ht : s.reach = .ok t) {offset : Nat}
    {limit : Option Nat} {page : List Embedding} (h : s.scan offset limit = .ok page) :
    page.map (·.item) = slice offset limit t.sorted.items := by
  obtain ⟨t', ht', hread⟩ := scan_eq_ok.1 h
  rw [ht] at ht'
  cases ht'
  rw [items_of_forall₂_read hread, Table.items_page]

/-- Only an item without a row has no neighbors for want of being found. -/
theorem similar_eq_notFound {s : Store} {item x : String} {n : Nat} :
    s.similar item n = .error (.notFound x) ↔ x = item ∧ ∃ t, s.reach = .ok t ∧ item ∉ t.items := by
  rw [← get_eq_notFound, similar, bind_eq_error]
  constructor
  · rintro (h | ⟨source, -, h⟩)
    · exact h
    · exfalso
      split at h
      · rw [nearest] at h
        split at h
        · cases h
        · rcases bind_eq_error.1 h with h | ⟨t, -, h⟩
          · rw [reach] at h
            split at h
            · cases h
            · split at h <;> cases h
          · obtain ⟨fault, -, hfault⟩ := mapError_eq_error.1 h
            cases hfault
      · cases h
  · exact fun h => .inl h

theorem mem_items_of_similar {s : Store} {item : String} {n : Nat} {found : Nearest}
    (h : s.similar item n = .ok found) : ∃ t, s.reach = .ok t ∧ item ∈ t.items := by
  rw [similar] at h
  obtain ⟨source, hsource, -⟩ := bind_eq_ok.1 h
  obtain ⟨t, row, ht, -, -⟩ := get_eq_ok.1 hsource
  exact ⟨t, ht, mem_items_of_get ht hsource⟩

/-! ## Tables of rows that can be read -/

variable {s : Store} {t : Table} {P : Embedding → Prop}

theorem exists_mapM_read (rows : List Row) (hrows : ∀ r ∈ rows, ∃ e, read r = .ok e ∧ P e) :
    ∃ es, rows.mapM read = .ok es ∧ ∀ e ∈ es, P e := by
  induction rows with
  | nil => exact ⟨[], rfl, fun e he => by cases he⟩
  | cons r rows ih =>
    obtain ⟨e, he, hP⟩ := hrows r List.mem_cons_self
    obtain ⟨es, hes, hPs⟩ := ih fun r' hr' => hrows r' (List.mem_cons_of_mem r hr')
    refine ⟨e :: es, ?_, List.forall_mem_cons.2 ⟨hP, hPs⟩⟩
    rw [List.mapM_cons, he, hes]
    rfl

/-- An item of a table of readable rows is read or not found. -/
theorem get_of_read (ht : s.reach = .ok t) (hread : ∀ r ∈ t, ∃ e, read r = .ok e ∧ P e)
    (item : String) :
    s.get item = .error (.notFound item) ∨ ∃ e, s.get item = .ok e ∧ e.item = item ∧ P e := by
  cases hrow : t.row? item with
  | none => exact .inl (get_eq_notFound.2 ⟨rfl, t, ht, Table.row?_eq_none.1 hrow⟩)
  | some r =>
    obtain ⟨e, he, hP⟩ := hread r (List.mem_of_find?_eq_some hrow)
    refine .inr ⟨e, get_eq_ok.2 ⟨t, r, ht, hrow, he⟩, ?_, hP⟩
    rw [Row.item_of_toEmbedding (read_eq_ok.1 he), Table.item_of_row? hrow]

theorem exists_scan (ht : s.reach = .ok t) (hread : ∀ r ∈ t, ∃ e, read r = .ok e ∧ P e)
    (offset : Nat) (limit : Option Nat) :
    ∃ page, s.scan offset limit = .ok page ∧ ∀ e ∈ page, P e := by
  obtain ⟨page, hpage, hP⟩ := exists_mapM_read (Table.page offset limit t)
    fun r hr => hread r (Table.mem_of_mem_page hr)
  exact ⟨page, bind_eq_ok.2 ⟨t, ht, hpage⟩, hP⟩

/-- What is found holds embeddings under their items. -/
def Found (P : Embedding → Prop) (found : Keyed Embedding) : Prop :=
  Keyed.Rising found.entries ∧ ∀ item e, found.get? item = some e → e.item = item ∧ P e

theorem found_foldl_insert {es : List Embedding} (hes : ∀ e ∈ es, P e) {found : Keyed Embedding}
    (h : Found P found) : Found P (es.foldl (fun found e => found.insert e.item e) found) := by
  induction es generalizing found with
  | nil => exact h
  | cons e es ih =>
    refine ih (fun e' he' => hes e' (List.mem_cons_of_mem e he')) ⟨Keyed.rising_alter h.1 _ _, ?_⟩
    intro item e' he'
    rw [Keyed.get?_insert h.1] at he'
    by_cases heq : item = e.item
    · rw [if_pos heq] at he'
      cases he'
      exact ⟨heq.symm, hes e List.mem_cons_self⟩
    · rw [if_neg heq] at he'
      exact h.2 item e' he'

theorem exists_foldlM_getChunk (ht : s.reach = .ok t)
    (hread : ∀ r ∈ t, ∃ e, read r = .ok e ∧ P e) (cs : List (List String))
    {found : Keyed Embedding} (h : Found P found) :
    ∃ found', cs.foldlM s.getChunk found = .ok found' ∧ Found P found' := by
  induction cs generalizing found with
  | nil => exact ⟨found, rfl, h⟩
  | cons c cs ih =>
    obtain ⟨es, hes, hP⟩ := exists_mapM_read (Table.rowsOf c t)
      fun r hr => hread r (Table.mem_of_mem_rowsOf hr)
    obtain ⟨found', hfound, h'⟩ := ih (found_foldl_insert hP h)
    refine ⟨found', ?_, h'⟩
    rw [List.foldlM_cons]
    exact bind_eq_ok.2 ⟨_, bind_eq_ok.2 ⟨t, ht, bind_eq_ok.2 ⟨es, hes, rfl⟩⟩, hfound⟩

theorem exists_getMany (ht : s.reach = .ok t) (hread : ∀ r ∈ t, ∃ e, read r = .ok e ∧ P e)
    (items : List String) :
    ∃ found, s.getMany items = .ok found ∧
      ∀ item e, found.get? item = some e → e.item = item ∧ P e := by
  obtain ⟨found, hfound, h⟩ := exists_foldlM_getChunk ht hread (chunks items)
    ⟨Keyed.rising_empty, fun item e he => by cases he⟩
  exact ⟨found, hfound, h.2⟩

end Store

end SimilarItems
