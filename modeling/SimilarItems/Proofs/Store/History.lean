import Mathlib.Logic.Function.Basic
import SimilarItems.Proofs.Store.Operations
import SimilarItems.Proofs.Store.Row

/-!
# What is read after a history of changes

A store is changed by calls that write and delete, some of which fail. What is read of it afterwards
is what was accepted last for each item, unless that was written with an instant that no reader
takes back.
-/

namespace SimilarItems

/-- An element of a list that grows at its end stands at the new end or was there before. -/
theorem append_singleton_eq_append_cons {α : Type} {l before rest : List α} {a x : α} :
    l ++ [a] = before ++ x :: rest ↔ (l = before ∧ a = x ∧ rest = []) ∨
      ∃ rest', rest = rest' ++ [a] ∧ l = before ++ x :: rest' := by
  constructor
  · intro h
    rcases List.eq_nil_or_concat rest with rfl | ⟨rest', last, rfl⟩
    · obtain ⟨rfl, hlast⟩ := List.append_inj' h rfl
      exact Or.inl ⟨rfl, List.head_eq_of_cons_eq hlast, rfl⟩
    · rw [List.concat_eq_append, ← List.cons_append, ← List.append_assoc] at h
      obtain ⟨rfl, hlast⟩ := List.append_inj' h rfl
      rw [List.concat_eq_append, List.head_eq_of_cons_eq hlast]
      exact Or.inr ⟨rest', rfl, rfl⟩
  · rintro (⟨rfl, rfl, rfl⟩ | ⟨rest', rfl, rfl⟩)
    · rfl
    · simp

/-! ## Changes -/

/-- A call that changes a store. -/
inductive Change where
  /-- Writes an embedding. -/
  | put (e : Embedding)
  /-- Writes embeddings, all of them or none. -/
  | putMany (es : List Embedding)
  /-- Deletes the embedding of an item. -/
  | delete (item : String)

namespace Change

/-- What the call answers. -/
def run (s : Store) : Change → Except StoreError Store
  | put e => s.put e
  | putMany es => s.putMany es
  | delete item => s.delete item

/-- The embeddings that the call writes. -/
def embeddings : Change → List Embedding
  | put e => [e]
  | putMany es => es
  | delete _ => []

/-- The embedding of each item after an embedding was written. -/
def record (written : String → Option Embedding) (e : Embedding) : String → Option Embedding :=
  Function.update written e.item (some e)

/-- The embedding of each item after the call was accepted. -/
def recordAll (written : String → Option Embedding) : Change → String → Option Embedding
  | put e => record written e
  | putMany es => es.foldl record written
  | delete item => Function.update written item none

theorem foldl_record (es : List Embedding) (written : String → Option Embedding) (item : String) :
    es.foldl record written item = (es.reverse.find? fun e => e.item = item).or (written item) := by
  induction es generalizing written with
  | nil => rfl
  | cons e es ih =>
    rw [List.foldl_cons, ih, List.reverse_cons, List.find?_append, Option.or_assoc, record]
    by_cases h : item = e.item
    · simp [h]
    · simp [h, Ne.symm h]

/-- A call that writes gives an item what it writes last for it. -/
theorem recordAll_eq {c : Change} {item : String} (hc : c ≠ delete item)
    (written : String → Option Embedding) :
    c.recordAll written item = (c.embeddings.reverse.find? fun e => e.item = item).or (written item) := by
  cases c with
  | put e => exact foldl_record [e] written item
  | putMany es => exact foldl_record es written item
  | delete x =>
    have hx : item ≠ x := by
      rintro rfl
      exact hc rfl
    simp [recordAll, embeddings, hx]

section Record

variable {P : Embedding → Prop} {written : String → Option Embedding}

theorem of_record (hw : ∀ item e, written item = some e → P e) {e : Embedding} (he : P e) :
    ∀ item x, record written e item = some x → P x := by
  intro item x hx
  by_cases heq : item = e.item
  · rw [record, heq, Function.update_self] at hx
    cases hx
    exact he
  · rw [record, Function.update_of_ne heq] at hx
    exact hw item x hx

theorem of_recordAll {c : Change} (hc : ∀ e ∈ c.embeddings, P e)
    (hw : ∀ item e, written item = some e → P e) :
    ∀ item x, c.recordAll written item = some x → P x := by
  cases c with
  | put e => exact of_record hw (hc e List.mem_cons_self)
  | putMany es =>
    change ∀ item x, es.foldl record written item = some x → P x
    have hes : ∀ e ∈ es, P e := hc
    clear hc
    induction es generalizing written with
    | nil => exact hw
    | cons e es ih =>
      exact ih (of_record hw (hes e List.mem_cons_self))
        fun e' he' => hes e' (List.mem_cons_of_mem e he')
  | delete deleted =>
    intro item x hx
    by_cases heq : item = deleted
    · rw [recordAll, heq, Function.update_self] at hx
      cases hx
    · rw [recordAll, Function.update_of_ne heq] at hx
      exact hw item x hx

end Record

end Change

/-- A store, and the embedding of each item that was accepted last. -/
structure History where
  /-- The store. -/
  store : Store
  /-- What was written last for an item and not deleted since. -/
  written : String → Option Embedding

namespace History

/-- Nothing was written yet. -/
def start (s : Store) : History := ⟨s, fun _ => none⟩

/-- A call to the store. One that fails changes nothing. -/
def step (h : History) (c : Change) : History :=
  match c.run h.store with
  | .ok s => ⟨s, c.recordAll h.written⟩
  | .error _ => h

theorem step_of_ok {h : History} {c : Change} {s : Store} (hs : c.run h.store = .ok s) :
    h.step c = ⟨s, c.recordAll h.written⟩ := by
  rw [step, hs]

theorem step_of_error {h : History} {c : Change} {error : StoreError}
    (hs : c.run h.store = .error error) : h.step c = h := by
  rw [step, hs]

theorem store_step (h : History) (c : Change) :
    (h.step c).store = (c.run h.store).toOption.getD h.store := by
  rw [step]
  cases c.run h.store <;> rfl

/-- Calls to a store, one after the other. -/
def after (s : Store) (changes : List Change) : History := changes.foldl step (start s)

theorem after_append_singleton (s : Store) (changes : List Change) (c : Change) :
    after s (changes ++ [c]) = (after s changes).step c := List.foldl_append

/-! ## What the table keeps -/

/-- The table has, for each item, the row of the embedding that was written last. -/
structure Holds (h : History) (t : Table) : Prop where
  reach : h.store.reach = .ok t
  distinct : t.Distinct
  rows : ∀ item, Option.Rel (fun r e => Row.ofEmbedding e = .ok r) (t.row? item) (h.written item)

variable {h : History} {t : Table}

theorem holds_start {s : Store} (hs : s.reach = .ok []) : (start s).Holds [] :=
  ⟨hs, List.nodup_nil, fun _ => .none⟩

theorem Holds.withTable (hh : h.Holds t) {t' : Table} {written : String → Option Embedding}
    (distinct : t'.Distinct)
    (rows : ∀ item,
      Option.Rel (fun r e => Row.ofEmbedding e = .ok r) (t'.row? item) (written item)) :
    (History.mk (h.store.withTable t') written).Holds t' :=
  ⟨Store.reach_withTable hh.reach t', distinct, rows⟩

theorem holds_put (hh : h.Holds t) {e : Embedding} {s : Store} (hs : h.store.put e = .ok s) :
    ∃ t', (History.mk s (Change.record h.written e)).Holds t' := by
  obtain ⟨row, t₁, hrow, ht₁, rfl⟩ := Store.put_eq_ok.1 hs
  rw [hh.reach] at ht₁
  cases ht₁
  have hitem := Store.item_of_rowFor hrow
  refine ⟨_, hh.withTable (Table.distinct_upsert hh.distinct) fun item => ?_⟩
  rw [Table.row?_upsert, hitem, Change.record]
  by_cases heq : e.item = item
  · rw [if_pos heq, ← heq, Function.update_self]
    exact .some (Store.ofEmbedding_of_rowFor hrow)
  · rw [if_neg heq, Function.update_of_ne (Ne.symm heq)]
    exact hh.rows item

theorem holds_putMany (hh : h.Holds t) {es : List Embedding} {s : Store}
    (hs : es.foldlM Store.put h.store = .ok s) :
    ∃ t', (History.mk s (es.foldl Change.record h.written)).Holds t' := by
  induction es generalizing h t with
  | nil =>
    cases hs
    exact ⟨t, hh⟩
  | cons e es ih =>
    rw [List.foldlM_cons] at hs
    obtain ⟨s', hs', hs⟩ := bind_eq_ok.1 hs
    obtain ⟨t', hh'⟩ := holds_put hh hs'
    exact ih hh' hs

theorem holds_delete (hh : h.Holds t) {item : String} {s : Store}
    (hs : h.store.delete item = .ok s) :
    ∃ t', (History.mk s (Function.update h.written item none)).Holds t' := by
  obtain ⟨t₁, ht₁, rfl⟩ := Store.delete_eq_ok.1 hs
  rw [hh.reach] at ht₁
  cases ht₁
  refine ⟨_, hh.withTable (Table.distinct_delete hh.distinct) fun x => ?_⟩
  rw [Table.row?_delete]
  by_cases heq : x = item
  · rw [if_pos heq, heq, Function.update_self]
    exact .none
  · rw [if_neg heq, Function.update_of_ne heq]
    exact hh.rows x

/-- Every call, accepted or not, keeps what the table has. -/
theorem holds_step (hh : h.Holds t) (c : Change) : ∃ t', (h.step c).Holds t' := by
  rw [step]
  split
  · rename_i s hs
    cases c with
    | put e => exact holds_put hh hs
    | putMany es => exact holds_putMany hh (Store.foldlM_put_of_putMany hs)
    | delete item => exact holds_delete hh hs
  · exact ⟨t, hh⟩

/-- What holds at the start and is kept by every call holds after all of them. -/
theorem after_induction {P : History → Prop} {s : Store} {changes : List Change}
    (hstart : P (start s)) (hstep : ∀ h, ∀ c ∈ changes, P h → P (h.step c)) :
    P (after s changes) := by
  rw [after]
  generalize start s = h at hstart ⊢
  induction changes generalizing h with
  | nil => exact hstart
  | cons c changes ih =>
    refine ih (fun h' c' hc' => hstep h' c' (List.mem_cons_of_mem c hc')) (h.step c) ?_
    exact hstep h c List.mem_cons_self hstart

/-- After all calls the table has what was written last. -/
theorem holds_after {s : Store} (hs : s.reach = .ok []) (changes : List Change) :
    ∃ t, (after s changes).Holds t := by
  refine after_induction (P := fun h => ∃ t, h.Holds t) ?_ ?_
  · exact ⟨[], holds_start hs⟩
  · rintro h c - ⟨t, hh⟩
    exact holds_step hh c

theorem written_after {P : Embedding → Prop} {changes : List Change}
    (hchanges : ∀ c ∈ changes, ∀ e ∈ c.embeddings, P e) (s : Store) :
    ∀ item e, (after s changes).written item = some e → P e := by
  refine after_induction (P := fun h => ∀ item e, h.written item = some e → P e) ?_ ?_
  · intro item e he
    cases he
  · intro h c hc hh
    rw [step]
    split
    · exact Change.of_recordAll (hchanges c hc) hh
    · exact hh

/-- What a call leaves does not depend on what was written before. -/
theorem store_foldl_step (changes : List Change) (h : History) :
    (changes.foldl step h).store = (after h.store changes).store := by
  induction changes generalizing h with
  | nil => rfl
  | cons c changes ih =>
    have hstep : (h.step c).store = ((start h.store).step c).store := by
      rw [step, step, start]
      cases c.run h.store <;> rfl
    rw [List.foldl_cons, ih, hstep, ← ih]
    rfl

theorem store_after_append (s : Store) (changes more : List Change) :
    (after s (changes ++ more)).store = (after (after s changes).store more).store := by
  rw [after, List.foldl_append, store_foldl_step]
  rfl

theorem index_foldlM_put {es : List Embedding} {s s' : Store} (h : es.foldlM Store.put s = .ok s') :
    s'.index = s.index := by
  induction es generalizing s with
  | nil =>
    cases h
    rfl
  | cons e es ih =>
    rw [List.foldlM_cons] at h
    obtain ⟨s₁, hput, h⟩ := bind_eq_ok.1 h
    obtain ⟨row, t, -, -, rfl⟩ := Store.put_eq_ok.1 hput
    have hindex := ih h
    exact hindex

/-- No call changes where nearest items come from. -/
theorem index_after (s : Store) (changes : List Change) : (after s changes).store.index = s.index := by
  refine after_induction (P := fun h => h.store.index = s.index) rfl ?_
  intro h c _ hh
  rw [step]
  split
  · rename_i s' hs
    refine Eq.trans ?_ hh
    cases c with
    | put e =>
      obtain ⟨row, t, -, -, rfl⟩ := Store.put_eq_ok.1 hs
      rfl
    | putMany es => exact index_foldlM_put (Store.foldlM_put_of_putMany hs)
    | delete item =>
      obtain ⟨t, -, rfl⟩ := Store.delete_eq_ok.1 hs
      rfl
  · exact hh

/-! ## Reading -/

/-- An embedding that is read has the instant and as many components as the one written last for its
item. -/
def Carries (h : History) (e : Embedding) : Prop :=
  ∃ w, h.written e.item = some w ∧ e.updated = w.updated ∧ e.dimension = w.dimension

/-- No reading fails for the encoding of a row, and all that is read carries what was written. -/
structure Readable (h : History) : Prop where
  get_ne_error : ∀ item fault, h.store.get item ≠ .error (.encoding fault)
  getMany_ne_error : ∀ items fault, h.store.getMany items ≠ .error (.encoding fault)
  scan_ne_error : ∀ offset limit fault, h.store.scan offset limit ≠ .error (.encoding fault)
  carries_get : ∀ item e, h.store.get item = .ok e → e.item = item ∧ h.Carries e
  carries_getMany : ∀ items found, h.store.getMany items = .ok found →
    ∀ item e, found.get? item = some e → e.item = item ∧ h.Carries e
  carries_scan : ∀ offset limit page, h.store.scan offset limit = .ok page →
    ∀ e ∈ page, h.Carries e

theorem Holds.exists_written (hh : h.Holds t) {item : String} {r : Row}
    (hr : t.row? item = some r) :
    ∃ w, h.written item = some w ∧ Row.ofEmbedding w = .ok r := by
  have hrow := hh.rows item
  rw [hr] at hrow
  generalize h.written item = written at hrow ⊢
  cases hrow with
  | some hrow => exact ⟨_, rfl, hrow⟩

theorem Holds.exists_row (hh : h.Holds t) {item : String} {w : Embedding}
    (hw : h.written item = some w) : ∃ r, t.row? item = some r ∧ Row.ofEmbedding w = .ok r := by
  have hrow := hh.rows item
  rw [hw] at hrow
  generalize t.row? item = row at hrow ⊢
  cases hrow with
  | some hrow => exact ⟨_, rfl, hrow⟩

/-- An item is not found exactly if nothing is written for it. -/
theorem Holds.get_eq_notFound_iff (hh : h.Holds t) (item : String) :
    h.store.get item = .error (.notFound item) ↔ h.written item = none := by
  have hrow : t.row? item = none ↔ h.written item = none := by
    have hrel := hh.rows item
    generalize t.row? item = row, h.written item = written at hrel
    cases hrel <;> simp
  rw [Store.get_eq_notFound, ← hrow, Table.row?_eq_none]
  constructor
  · rintro ⟨-, t', ht', hno⟩
    rw [hh.reach] at ht'
    cases ht'
    exact hno
  · intro hno
    exact ⟨rfl, t, hh.reach, hno⟩

/-- A row of an instant that is read back carries what was written. -/
theorem Holds.exists_read (hh : h.Holds t)
    (hwritten : ∀ item e, h.written item = some e →
      Instant.ofRfc3339? e.updated.rfc3339 = some e.updated)
    {r : Row} (hr : r ∈ t) : ∃ e, Store.read r = .ok e ∧ h.Carries e := by
  obtain ⟨w, hw, hrow⟩ := hh.exists_written (Table.row?_of_mem hh.distinct hr)
  obtain ⟨v, hv, hlength⟩ := Row.exists_toEmbedding hrow (hwritten _ _ hw)
  refine ⟨_, Store.read_eq_ok.2 hv, w, ?_, rfl, hlength⟩
  rw [← hw, Row.item_of_ofEmbedding hrow]

theorem Holds.readable (hh : h.Holds t)
    (hwritten : ∀ item e, h.written item = some e →
      Instant.ofRfc3339? e.updated.rfc3339 = some e.updated) : h.Readable := by
  have hread : ∀ r ∈ t, ∃ e, Store.read r = .ok e ∧ h.Carries e := fun r => hh.exists_read hwritten
  have hget := Store.get_of_read hh.reach hread
  have hgetMany := Store.exists_getMany hh.reach hread
  have hscan := Store.exists_scan hh.reach hread
  refine ⟨fun item fault heq => ?_, fun items fault heq => ?_, fun offset limit fault heq => ?_,
    fun item e heq => ?_, fun items found heq => ?_, fun offset limit page heq => ?_⟩
  · rcases hget item with hitem | ⟨e, hitem, -⟩
    · rw [hitem] at heq
      cases heq
    · rw [hitem] at heq
      cases heq
  · obtain ⟨found, hfound, -⟩ := hgetMany items
    rw [hfound] at heq
    cases heq
  · obtain ⟨page, hpage, -⟩ := hscan offset limit
    rw [hpage] at heq
    cases heq
  · rcases hget item with hitem | ⟨e', hitem, he'⟩
    · rw [hitem] at heq
      cases heq
    · rw [hitem] at heq
      cases heq
      exact he'
  · obtain ⟨found', hfound, hcarries⟩ := hgetMany items
    rw [hfound] at heq
    cases heq
    exact hcarries
  · obtain ⟨page', hpage, hcarries⟩ := hscan offset limit
    rw [hpage] at heq
    cases heq
    exact hcarries

/-- What was written last is read back only if its instant is. -/
theorem Holds.ofRfc3339?_of_readable (hh : h.Holds t) (hreadable : h.Readable) {item : String}
    {w : Embedding} (hw : h.written item = some w) :
    Instant.ofRfc3339? w.updated.rfc3339 = some w.updated := by
  obtain ⟨r, hr, hrow⟩ := hh.exists_row hw
  have hget := Store.get_of_row? hh.reach hr
  cases ht : Instant.ofRfc3339? w.updated.rfc3339 with
  | none =>
    exfalso
    refine hreadable.get_ne_error item (.invalidInstant w.item) ?_
    rw [hget, Store.read, Row.toEmbedding_eq_error hrow ht]
    rfl
  | some u =>
    obtain ⟨v, hv, -⟩ := Row.exists_toEmbedding hrow ht
    have hok : h.store.get item = .ok ⟨w.item, v, u⟩ := hget.trans (Store.read_eq_ok.2 hv)
    obtain ⟨hitem, w', hw', hupdated, -⟩ := hreadable.carries_get item _ hok
    rw [hitem, hw] at hw'
    cases hw'
    exact congrArg some hupdated

/-- An item that was written last with an instant that is read back is found, whatever else was
written. -/
theorem Holds.exists_get (hh : h.Holds t) {item : String} {w : Embedding}
    (hw : h.written item = some w)
    (hback : Instant.ofRfc3339? w.updated.rfc3339 = some w.updated) :
    ∃ e, h.store.get item = .ok e ∧ e.item = item ∧ e.updated = w.updated ∧
      e.dimension = w.dimension := by
  obtain ⟨r, hr, hrow⟩ := hh.exists_row hw
  obtain ⟨v, hv, hlength⟩ := Row.exists_toEmbedding hrow hback
  refine ⟨_, (Store.get_of_row? hh.reach hr).trans (Store.read_eq_ok.2 hv), ?_, rfl, hlength⟩
  rw [← Table.item_of_row? hr, Row.item_of_ofEmbedding hrow]

/-- After any calls that write instants that can be told, everything is readable exactly if all
instants of what is still written are restorable, and what is written with such an instant is
found. -/
theorem readable_after_iff {s : Store} (hs : s.reach = .ok []) {changes : List Change}
    (hchanges : ∀ c ∈ changes, ∀ e ∈ c.embeddings, e.updated.Possible) :
    ((after s changes).Readable ↔
      ∀ item e, (after s changes).written item = some e → e.updated.Restorable) ∧
    ∀ item w, (after s changes).written item = some w → w.updated.Restorable →
      ∃ e, (after s changes).store.get item = .ok e ∧ e.item = item ∧ e.updated = w.updated ∧
        e.dimension = w.dimension := by
  obtain ⟨t, hh⟩ := holds_after hs changes
  have hpossible := written_after hchanges s
  refine ⟨⟨fun hreadable item e he => ?_, fun hrestorable => ?_⟩, fun item w hw hrestorable => ?_⟩
  · rw [← Instant.ofRfc3339?_rfc3339_iff (hpossible item e he)]
    exact hh.ofRfc3339?_of_readable hreadable he
  · refine hh.readable fun item e he => ?_
    rw [Instant.ofRfc3339?_rfc3339_iff (hpossible item e he)]
    exact hrestorable item e he
  · rw [← Instant.ofRfc3339?_rfc3339_iff (hpossible item w hw)] at hrestorable
    exact hh.exists_get hw hrestorable

/-- A write, a batch in which an item comes twice, a write of another dimension and a deletion. -/
def mixedChanges : List Change := [
  .put ⟨"a", [.one], ⟨-62167219200, 999999999⟩⟩,
  .putMany [⟨"b", [.one], ⟨59, 1500000000⟩⟩, ⟨"b", [.zero true], ⟨253402300799, 0⟩⟩],
  .put ⟨"c", [.one, .one], ⟨0, 0⟩⟩,
  .delete "a"]

theorem readable_after_mixedChanges :
    (after (.empty (some 1)) mixedChanges).Readable ∧
      ∃ e, (after (.empty (some 1)) mixedChanges).store.get "b" = .ok e ∧ e.item = "b" ∧
        e.updated = ⟨253402300799, 0⟩ ∧ e.dimension = 1 := by
  have hs : (Store.empty (some 1)).reach = .ok [] := rfl
  have hchanges : ∀ c ∈ mixedChanges, ∀ e ∈ c.embeddings, e.updated.Possible := by
    decide +kernel
  have hrestorable : ∀ c ∈ mixedChanges, ∀ e ∈ c.embeddings, e.updated.Restorable := by
    decide +kernel
  have hwritten : (after (.empty (some 1)) mixedChanges).written "b" =
      some ⟨"b", [.zero true], ⟨253402300799, 0⟩⟩ := by decide +kernel
  obtain ⟨hreadable, hfound⟩ := readable_after_iff hs hchanges
  exact ⟨hreadable.2 (written_after hrestorable _), hfound "b" _ hwritten (by decide)⟩

/-- A store accepts an instant of the year 10000, and cannot read the row any more. -/
theorem not_readable_after : ¬ ∀ (s : Store) (changes : List Change), s.reach = .ok [] →
    (∀ c ∈ changes, ∀ e ∈ c.embeddings, e.updated.Possible) → (after s changes).Readable := by
  intro h
  have hreadable := h (.empty none) [.put ⟨"a", [.one], ⟨253402300800, 0⟩⟩] rfl
    (by decide +kernel)
  exact hreadable.get_ne_error "a" (.invalidInstant "a") (by decide +kernel)

end History

end SimilarItems
