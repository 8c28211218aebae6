import Mathlib.Data.List.Induction
import SimilarItems.Proofs.Store.History

/-!
# Batches of writes

A batch writes all of its embeddings or none. Whether an embedding is accepted does not depend on
what the table holds, so a batch is accepted exactly if each of its embeddings is, and then it leaves
what the single writes leave one after the other.
-/

namespace SimilarItems

namespace Table

theorem eraseDups_append_singleton (l : List String) (a : String) :
    (l ++ [a]).eraseDups = if a ∈ l then l.eraseDups else l.eraseDups ++ [a] := by
  rw [List.eraseDups_append, List.removeAll]
  by_cases h : a ∈ l
  · simp [h]
  · simp [h, List.eraseDups_cons]

/-- The table after rows were put into it in their order. -/
def upsertAll (rows : List Row) (t : Table) : Table := rows.foldl (fun t row => upsert row t) t

theorem items_upsert (row : Row) (t : Table) :
    items (upsert row t) = if row.item ∈ t.items then t.items else t.items ++ [row.item] := by
  induction t with
  | nil => rfl
  | cons r t ih =>
    rw [upsert]
    by_cases h : r.item = row.item
    · simp [items, h]
    · simp only [items] at ih
      by_cases hmem : row.item ∈ t.map (·.item)
      · simp [items, h, ih, hmem]
      · simp [items, h, ih, hmem, Ne.symm h]

/-- Items keep their places, and new ones follow in the order in which they first come. -/
theorem items_upsertAll (rows : List Row) (t : Table) :
    items (upsertAll rows t) =
      t.items ++ ((rows.map (·.item)).filter fun item => item ∉ t.items).eraseDups := by
  induction rows using List.reverseRecOn with
  | nil => simp [upsertAll]
  | append_singleton rows row ih =>
    have hlast : upsertAll (rows ++ [row]) t = upsert row (upsertAll rows t) := List.foldl_append
    rw [hlast, items_upsert, ih, List.map_append, List.filter_append]
    by_cases hold : row.item ∈ t.items
    · simp [hold]
    · have hfilter : (([row].map (·.item)).filter fun item => item ∉ t.items) = [row.item] := by
        simp [hold]
      rw [hfilter, eraseDups_append_singleton]
      simp only [List.mem_append, List.mem_eraseDups, hold, false_or]
      split
      · rfl
      · rw [List.append_assoc]

/-- An item has the row that was put last for it, or the one that it had before. -/
theorem row?_upsertAll (rows : List Row) (t : Table) (item : String) :
    row? item (upsertAll rows t) = (rows.reverse.find? fun row => row.item = item).or (row? item t) := by
  induction rows using List.reverseRecOn with
  | nil => rfl
  | append_singleton rows row ih =>
    have hlast : upsertAll (rows ++ [row]) t = upsert row (upsertAll rows t) := List.foldl_append
    rw [hlast, row?_upsert, ih, List.reverse_append]
    by_cases h : row.item = item
    · simp [h]
    · simp [h]

end Table

namespace Store

variable {s : Store} {t : Table} {e : Embedding} {es : List Embedding}

/-! ## What is accepted -/

/-- The store writes an embedding. -/
def Accepts (s : Store) (e : Embedding) : Prop := ∃ s', s.put e = .ok s'

instance : Decidable (s.Accepts e) :=
  decidable_of_iff ((s.put e).isOk = true) (by
    rw [Accepts]
    cases s.put e <;> simp [Except.isOk, Except.toBool])

/-- Why a store refuses to write an embedding: for its dimension, or else for its first component
that is not finite. -/
inductive Refusal (s : Store) (e : Embedding) : StoreError → Prop where
  | dimension (d : Nat) (hd : s.dimension = some d) (hne : e.dimension ≠ d) :
      Refusal s e (.invalidDimension d e.dimension)
  | component (position : Nat) (x : Binary64) (hd : ∀ d ∈ s.dimension, e.dimension = d)
      (hx : e.vector[position]? = some x) (hinfinite : x.isFinite = false)
      (hbefore : ∀ y ∈ e.vector.take position, y.isFinite) :
      Refusal s e (.encoding (.notFinite e.item position))

theorem ofEmbedding_cases (e : Embedding) :
    (∃ row, Row.ofEmbedding e = .ok row) ∨
      ∃ (position : Nat) (x : Binary64), e.vector[position]? = some x ∧ x.isFinite = false ∧
        (∀ y ∈ e.vector.take position, y.isFinite) ∧
          Row.ofEmbedding e = .error (.notFinite e.item position) := by
  rw [Row.ofEmbedding, Row.encodeVector]
  cases hfind : e.vector.findIdx? fun x => !x.isFinite with
  | none => exact .inl ⟨_, rfl⟩
  | some position =>
    obtain ⟨hlt, hx, hbefore⟩ := List.findIdx?_eq_some_iff_getElem.1 hfind
    refine .inr ⟨position, e.vector[position], List.getElem?_eq_getElem hlt, by simpa using hx, ?_,
      rfl⟩
    intro y hy
    obtain ⟨i, hi, rfl⟩ := List.getElem_of_mem hy
    rw [List.length_take] at hi
    rw [List.getElem_take]
    simpa using hbefore i (by omega)

/-- An embedding has a row, or the store refuses it. -/
theorem rowFor_cases (s : Store) (e : Embedding) :
    (∃ row, s.rowFor e = .ok row) ∨ ∃ error, s.rowFor e = .error error ∧ Refusal s e error := by
  have hrow (hd : ∀ d ∈ s.dimension, e.dimension = d)
      (h : s.rowFor e = (Row.ofEmbedding e).mapError .encoding) :
      (∃ row, s.rowFor e = .ok row) ∨ ∃ error, s.rowFor e = .error error ∧ Refusal s e error := by
    rw [h]
    rcases ofEmbedding_cases e with ⟨row, hok⟩ | ⟨position, x, hx, hinfinite, hbefore, herror⟩
    · exact .inl ⟨row, mapError_eq_ok.2 hok⟩
    · exact .inr ⟨_, mapError_eq_error.2 ⟨_, herror, rfl⟩,
        .component position x hd hx hinfinite hbefore⟩
  cases hd : s.dimension with
  | none => exact hrow (by simp [hd]) (by rw [rowFor, checkDimension, hd]; rfl)
  | some d =>
    by_cases heq : e.dimension = d
    · exact hrow (by simp [hd, heq]) (by simp only [rowFor, checkDimension, hd, if_pos heq]; rfl)
    · exact .inr ⟨_, by simp only [rowFor, checkDimension, hd, if_neg heq]; rfl,
        .dimension d hd heq⟩

theorem put_of_reach (ht : s.reach = .ok t) (e : Embedding) :
    s.put e = (s.rowFor e).map fun row => s.withTable (Table.upsert row t) := by
  rw [put, ht]
  cases s.rowFor e <;> rfl

/-- Whether a store accepts an embedding does not depend on what its table holds. -/
theorem accepts_iff (ht : s.reach = .ok t) : s.Accepts e ↔ ∃ row, s.rowFor e = .ok row := by
  rw [Accepts, put_of_reach ht]
  constructor
  · rintro ⟨s', h⟩
    obtain ⟨row, hrow, -⟩ := map_eq_ok.1 h
    exact ⟨row, hrow⟩
  · rintro ⟨row, hrow⟩
    exact ⟨_, map_eq_ok.2 ⟨row, hrow, rfl⟩⟩

theorem put_eq_error_of_reach (ht : s.reach = .ok t) {error : StoreError} :
    s.put e = .error error ↔ s.rowFor e = .error error := by
  rw [put_of_reach ht]
  cases s.rowFor e <;> simp [Except.map]

/-! ## Writes one after another -/

/-- The rows of accepted embeddings are put into the table in their order. -/
theorem exists_foldlM_put (ht : s.reach = .ok t) (hes : ∀ e ∈ es, s.Accepts e) :
    ∃ rows, List.Forall₂ (fun e row => Row.ofEmbedding e = .ok row) es rows ∧
      es.foldlM put s = .ok (s.withTable (Table.upsertAll rows t)) := by
  induction es generalizing s t with
  | nil =>
    refine ⟨[], .nil, ?_⟩
    obtain ⟨-, htable⟩ := reach_eq_ok.1 ht
    show Except.ok s = _
    rw [Table.upsertAll, List.foldl_nil, withTable, ← htable]
  | cons e es ih =>
    rw [List.forall_mem_cons] at hes
    obtain ⟨row, hrow⟩ := (accepts_iff ht).1 hes.1
    have ht' := reach_withTable ht (Table.upsert row t)
    have hes' : ∀ e' ∈ es, (s.withTable (Table.upsert row t)).Accepts e' := by
      intro e' he'
      exact (accepts_iff ht').2 ((accepts_iff ht).1 (hes.2 e' he'))
    obtain ⟨rows, hrows, hfold⟩ := ih ht' hes'
    refine ⟨row :: rows, .cons (ofEmbedding_of_rowFor hrow) hrows, ?_⟩
    rw [List.foldlM_cons, put_of_reach ht, hrow]
    exact hfold

/-- A batch fails as its first refused embedding does. -/
theorem foldlM_put_eq_error (ht : s.reach = .ok t) {before : List Embedding} (after : List Embedding)
    {error : StoreError} (hbefore : ∀ x ∈ before, s.Accepts x) (he : s.put e = .error error) :
    (before ++ e :: after).foldlM put s = .error error := by
  obtain ⟨rows, -, hfold⟩ := exists_foldlM_put ht hbefore
  have ht' := reach_withTable ht (Table.upsertAll rows t)
  have hput : (s.withTable (Table.upsertAll rows t)).put e = .error error :=
    (put_eq_error_of_reach ht').2 ((put_eq_error_of_reach ht).1 he)
  rw [List.foldlM_append, hfold]
  refine bind_eq_error.2 (.inr ⟨_, rfl, ?_⟩)
  rw [List.foldlM_cons]
  exact bind_eq_error.2 (.inl hput)

/-- Accepted single calls come to the same as the writes one after another. -/
theorem after_puts {s' : Store} (h : es.foldlM put s = .ok s') (written : String → Option Embedding) :
    ((es.map Change.put).foldl History.step ⟨s, written⟩).store = s' := by
  induction es generalizing s written with
  | nil => exact Except.ok.inj h
  | cons e es ih =>
    rw [List.foldlM_cons] at h
    obtain ⟨s₁, hput, h⟩ := bind_eq_ok.1 h
    rw [List.map_cons, List.foldl_cons, History.step, Change.run, hput]
    exact ih h _

/-- Either all embeddings are accepted, or there is a first one that is refused. -/
theorem exists_first_refused (hes : ¬ ∀ e ∈ es, s.Accepts e) :
    ∃ before e after error, es = before ++ e :: after ∧ (∀ x ∈ before, s.Accepts x) ∧
      s.put e = .error error := by
  induction es with
  | nil => exact absurd (List.forall_mem_nil _) hes
  | cons e es ih =>
    cases hput : s.put e with
    | error error => exact ⟨[], e, es, error, rfl, List.forall_mem_nil _, hput⟩
    | ok s' =>
      have hrest : ¬ ∀ e' ∈ es, s.Accepts e' := fun h => hes (List.forall_mem_cons.2 ⟨⟨s', hput⟩, h⟩)
      obtain ⟨before, e', after, error, rfl, hbefore, he'⟩ := ih hrest
      exact ⟨e :: before, e', after, error, rfl, List.forall_mem_cons.2 ⟨⟨s', hput⟩, hbefore⟩, he'⟩

/-! ## Batches -/

/-- The table `t'` is the table `t` after embeddings were written in their order: items keep their
places, new ones follow in the order in which they first come, and each has what was written last
for it. -/
structure Written (es : List Embedding) (t t' : Table) : Prop where
  items : t'.items = t.items ++ ((es.map (·.item)).filter fun item => item ∉ t.items).eraseDups
  rows : ∀ item, match es.reverse.find? fun e => e.item = item with
    | none => t'.row? item = t.row? item
    | some e => ∃ row, Row.ofEmbedding e = .ok row ∧ t'.row? item = some row

theorem items_of_forall₂_ofEmbedding {rows : List Row}
    (h : List.Forall₂ (fun e row => Row.ofEmbedding e = .ok row) es rows) :
    rows.map (·.item) = es.map (·.item) := by
  induction h with
  | nil => rfl
  | cons hrow _ ih => rw [List.map_cons, List.map_cons, Row.item_of_ofEmbedding hrow, ih]

/-- The first row of an item is that of its first embedding. -/
theorem rel_find?_of_forall₂ {rows : List Row}
    (h : List.Forall₂ (fun e row => Row.ofEmbedding e = .ok row) es rows) (item : String) :
    Option.Rel (fun e row => Row.ofEmbedding e = .ok row) (es.find? fun e => e.item = item)
      (rows.find? fun row => row.item = item) := by
  induction h with
  | nil => exact .none
  | @cons e row es rows hrow _ ih =>
    rw [List.find?_cons, List.find?_cons, Row.item_of_ofEmbedding hrow]
    by_cases heq : e.item = item
    · simpa [heq] using Option.Rel.some hrow
    · simpa [heq] using ih

theorem written_upsertAll {rows : List Row}
    (h : List.Forall₂ (fun e row => Row.ofEmbedding e = .ok row) es rows) (t : Table) :
    Written es t (Table.upsertAll rows t) := by
  constructor
  · rw [Table.items_upsertAll, items_of_forall₂_ofEmbedding h]
  · intro item
    have hlast := rel_find?_of_forall₂ (List.rel_reverse h) item
    rw [Table.row?_upsertAll]
    generalize (es.reverse.find? fun e => e.item = item) = last,
      (rows.reverse.find? fun row => row.item = item) = row at hlast ⊢
    cases hlast with
    | none => rfl
    | some hrow => exact ⟨_, hrow, rfl⟩

/-- A batch of accepted embeddings leaves the table that the single calls leave one after the other;
any other batch fails as the first refused call would, and leaves the store as it was. -/
theorem putMany_all_or_nothing (hs : s.reach = .ok t) (es : List Embedding) :
    ((∀ e ∈ es, s.Accepts e) →
      ∃ t', s.putMany es = .ok (s.withTable t') ∧
        (History.after s (es.map .put)).store = s.withTable t' ∧ Written es t t') ∧
    ((¬ ∀ e ∈ es, s.Accepts e) →
      ∃ before e after error, es = before ++ e :: after ∧ (∀ x ∈ before, s.Accepts x) ∧
        s.put e = .error error ∧ Refusal s e error ∧ s.putMany es = .error error ∧
        (History.after s [.putMany es]).store = s) := by
  rw [putMany_eq_foldlM (reach_eq_ok.1 hs).1]
  constructor
  · intro hes
    obtain ⟨rows, hrows, hfold⟩ := exists_foldlM_put hs hes
    exact ⟨_, hfold, after_puts hfold _, written_upsertAll hrows t⟩
  · intro hes
    obtain ⟨before, e, after, error, rfl, hbefore, he⟩ := exists_first_refused hes
    have hfold := foldlM_put_eq_error hs after hbefore he
    have hrefusal : Refusal s e error := by
      rcases rowFor_cases s e with ⟨row, hrow⟩ | ⟨error', herror, hrefusal⟩
      · rw [(put_eq_error_of_reach hs).1 he] at hrow
        cases hrow
      · rw [(put_eq_error_of_reach hs).1 he] at herror
        cases herror
        exact hrefusal
    refine ⟨before, e, after, error, rfl, hbefore, he, hrefusal, hfold, ?_⟩
    rw [History.after, List.foldl_cons, History.step, Change.run, History.start,
      putMany_eq_foldlM (reach_eq_ok.1 hs).1, hfold]
    rfl

/-- A store for vectors of one component, with a row that cannot be read. -/
def guarded : Store :=
  (Store.empty (some 1)).withTable [⟨"b", "[1.0]", "1970-01-01T00:00:00+00:00"⟩, ⟨"a", "?", ""⟩]

/-- A batch that replaces a row and writes a new item twice. -/
def repeated : List Embedding :=
  [⟨"c", [.one], ⟨0, 0⟩⟩, ⟨"a", [.one], ⟨0, 0⟩⟩, ⟨"c", [.zero false], ⟨1, 0⟩⟩]

/-- The same batch with two embeddings that the store refuses. -/
def refused : List Embedding :=
  repeated ++ [⟨"d", [.infinity true], ⟨0, 0⟩⟩, ⟨"e", [], ⟨0, 0⟩⟩]

theorem putMany_all_or_nothing_guarded :
    (∃ t', guarded.putMany repeated = .ok (guarded.withTable t') ∧
      (History.after guarded (repeated.map .put)).store = guarded.withTable t' ∧
      t'.items = ["b", "a", "c"] ∧
      t'.row? "c" = some ⟨"c", "[0.0]", "1970-01-01T00:00:01+00:00"⟩) ∧
    guarded.putMany refused = .error (.encoding (.notFinite "d" 0)) ∧
      (History.after guarded [.putMany refused]).store = guarded := by
  have hs : guarded.reach = .ok [⟨"b", "[1.0]", "1970-01-01T00:00:00+00:00"⟩, ⟨"a", "?", ""⟩] := rfl
  constructor
  · obtain ⟨t', hput, hafter, hwritten⟩ := (putMany_all_or_nothing hs repeated).1 (by decide +kernel)
    refine ⟨t', hput, hafter, hwritten.items, ?_⟩
    obtain ⟨row, hrow, hlast⟩ := hwritten.rows "c"
    rw [hlast, ← Except.ok.inj hrow]
    decide +kernel
  · obtain ⟨before, e, after, error, -, -, -, -, -, hstore⟩ :=
      (putMany_all_or_nothing hs refused).2 (by decide +kernel)
    exact ⟨by decide +kernel, hstore⟩

end Store

end SimilarItems
