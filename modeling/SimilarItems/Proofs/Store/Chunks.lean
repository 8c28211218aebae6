import SimilarItems.Proofs.Store.Operations
import SimilarItems.Proofs.Text.Bytes

/-!
# Many items at once

Items that are asked for together are found as if each of them were asked for alone, whatever chunks
they fall into. Only if some of their rows cannot be read, the chunks show: the first chunk with such
a row tells what fails, and within it the row that comes first by rising item.
-/

namespace SimilarItems

namespace Store

variable {s : Store} {t : Table}

/-! ## One item -/

/-- The item is stored, but its row cannot be read. -/
def Unreadable (s : Store) (item : String) : Prop :=
  ∃ fault, s.get item = .error (.encoding fault)

theorem not_unreadable_of_get {item : String} {e : Embedding} (h : s.get item = .ok e) :
    ¬ s.Unreadable item := by
  rintro ⟨fault, hfault⟩
  rw [h] at hfault
  cases hfault

theorem get_of_mem (hs : s.reach = .ok t) (ht : t.Distinct) {r : Row} (hr : r ∈ t) :
    s.get r.item = read r := get_of_row? hs (Table.row?_of_mem ht hr)

/-- An item that is stored is read, or its row cannot be read. -/
theorem get_of_mem_items (hs : s.reach = .ok t) {item : String} (h : item ∈ t.items) :
    (∃ e, s.get item = .ok e) ∨ s.Unreadable item := by
  cases hrow : t.row? item with
  | none => exact absurd h (Table.row?_eq_none.1 hrow)
  | some r =>
    rw [Unreadable, get_of_row? hs hrow]
    cases hread : read r with
    | ok e => exact .inl ⟨e, rfl⟩
    | error e =>
      obtain ⟨fault, -, rfl⟩ := mapError_eq_error.1 hread
      exact .inr ⟨fault, rfl⟩

theorem get_of_not_mem_items (hs : s.reach = .ok t) {item : String} (h : item ∉ t.items) :
    s.get item = .error (.notFound item) := get_eq_notFound.2 ⟨rfl, t, hs, h⟩

theorem mem_items_of_unreadable (hs : s.reach = .ok t) {item : String} (h : s.Unreadable item) :
    item ∈ t.items := by
  by_contra hnot
  obtain ⟨fault, hfault⟩ := h
  rw [get_of_not_mem_items hs hnot] at hfault
  cases hfault

/-! ## One chunk -/

theorem rising_rowsOf (ht : t.Distinct) (chunk : List String) :
    (Table.items (Table.rowsOf chunk t)).Pairwise (· < ·) := by
  refine (Table.rising_sorted ht).sublist ?_
  exact List.filter_sublist.map _

theorem mem_items_rowsOf {chunk : List String} {item : String} :
    item ∈ Table.items (Table.rowsOf chunk t) ↔ item ∈ chunk ∧ item ∈ t.items := by
  have hmem : item ∈ t.items ↔ item ∈ t.sorted.items := t.perm_items_sorted.mem_iff.symm
  rw [hmem]
  simp only [Table.items, Table.rowsOf, List.mem_map, List.mem_filter, List.contains_iff_mem]
  constructor
  · rintro ⟨r, ⟨hr, hitem⟩, rfl⟩
    exact ⟨hitem, r, hr, rfl⟩
  · rintro ⟨hitem, r, hr, rfl⟩
    exact ⟨r, ⟨hr, hitem⟩, rfl⟩

/-- The stored items of a chunk are read one by one, by rising item. -/
theorem mapM_read_rowsOf (hs : s.reach = .ok t) (ht : t.Distinct) (chunk : List String) :
    (Table.rowsOf chunk t).mapM read = (Table.items (Table.rowsOf chunk t)).mapM s.get := by
  rw [Table.items, List.mapM_map]
  exact mapM_congr fun r hr => (get_of_mem hs ht (Table.mem_of_mem_rowsOf hr)).symm

variable {found found' : Keyed Embedding} {chunk : List String}

theorem getChunk_eq (hs : s.reach = .ok t) (ht : t.Distinct) :
    s.getChunk found chunk = ((Table.items (Table.rowsOf chunk t)).mapM s.get).map fun es =>
      es.foldl (fun found e => found.insert e.item e) found := by
  rw [getChunk, hs, ← mapM_read_rowsOf hs ht]
  show ((Table.rowsOf chunk t).mapM read >>= _) = _
  cases (Table.rowsOf chunk t).mapM read <;> rfl

/-- Stored items that rise fail with the fault of the first of them that is unreadable. -/
theorem mapM_get_eq_error (hs : s.reach = .ok t) {items : List String}
    (hstored : ∀ item ∈ items, item ∈ t.items) (hrising : items.Pairwise (· < ·))
    {e : StoreError} :
    items.mapM s.get = .error e ↔ ∃ item ∈ items, ∃ fault,
      s.get item = .error (.encoding fault) ∧ e = .encoding fault ∧
      ∀ item' ∈ items, s.Unreadable item' → item ≤ item' := by
  rw [mapM_eq_error]
  constructor
  · rintro ⟨before, item, after, rfl, hbefore, hitem⟩
    rw [List.pairwise_append, List.pairwise_cons] at hrising
    have hmem : item ∈ before ++ item :: after := List.mem_append_cons_self
    obtain ⟨e', he'⟩ | ⟨fault, hfault⟩ := get_of_mem_items hs (hstored item hmem)
    · rw [hitem] at he'
      cases he'
    refine ⟨item, hmem, fault, hfault, Except.error.inj (hitem.symm.trans hfault), ?_⟩
    intro item' hmem' hunreadable
    rcases List.mem_append.1 hmem' with hmem' | hmem'
    · obtain ⟨e', he'⟩ := hbefore item' hmem'
      exact absurd hunreadable (not_unreadable_of_get he')
    · rcases List.mem_cons.1 hmem' with rfl | hmem'
      · exact le_rfl
      · exact (hrising.2.1.1 item' hmem').le
  · rintro ⟨item, hmem, fault, hfault, rfl, hfirst⟩
    obtain ⟨before, after, rfl⟩ := List.append_of_mem hmem
    refine ⟨before, item, after, rfl, fun item' hbefore => ?_, hfault⟩
    have hmem' : item' ∈ before ++ item :: after := List.mem_append_left _ hbefore
    have hlt := (List.pairwise_append.1 hrising).2.2 item' hbefore item List.mem_cons_self
    rcases get_of_mem_items hs (hstored item' hmem') with hread | hunreadable
    · exact hread
    · exact absurd hlt (hfirst item' hmem' hunreadable).not_gt

/-- A chunk fails with the fault of its first unreadable item. -/
theorem getChunk_eq_error (hs : s.reach = .ok t) (ht : t.Distinct) {e : StoreError} :
    s.getChunk found chunk = .error e ↔ ∃ item ∈ chunk, ∃ fault,
      s.get item = .error (.encoding fault) ∧ e = .encoding fault ∧
      ∀ item' ∈ chunk, s.Unreadable item' → item ≤ item' := by
  have hstored : ∀ item ∈ Table.items (Table.rowsOf chunk t), item ∈ t.items :=
    fun item hmem => (mem_items_rowsOf.1 hmem).2
  have hmem {item : String} (hunreadable : s.Unreadable item) :
      item ∈ Table.items (Table.rowsOf chunk t) ↔ item ∈ chunk := by
    rw [mem_items_rowsOf]
    exact and_iff_left (mem_items_of_unreadable hs hunreadable)
  rw [getChunk_eq hs ht, map_eq_error, mapM_get_eq_error hs hstored (rising_rowsOf ht chunk)]
  constructor
  · rintro ⟨item, hitem, fault, hfault, rfl, hfirst⟩
    refine ⟨item, (hmem ⟨fault, hfault⟩).1 hitem, fault, hfault, rfl, ?_⟩
    intro item' hitem' hunreadable
    exact hfirst item' ((hmem hunreadable).2 hitem') hunreadable
  · rintro ⟨item, hitem, fault, hfault, rfl, hfirst⟩
    refine ⟨item, (hmem ⟨fault, hfault⟩).2 hitem, fault, hfault, rfl, ?_⟩
    intro item' hitem' hunreadable
    exact hfirst item' ((hmem hunreadable).1 hitem') hunreadable

theorem exists_getChunk_iff (hs : s.reach = .ok t) (ht : t.Distinct) :
    (∃ found', s.getChunk found chunk = .ok found') ↔ ∀ item ∈ chunk, ¬ s.Unreadable item := by
  constructor
  · rintro ⟨found', h⟩ item hchunk hunreadable
    rw [getChunk_eq hs ht, map_eq_ok] at h
    obtain ⟨es, hes, -⟩ := h
    have hmem := mem_items_rowsOf.2 ⟨hchunk, mem_items_of_unreadable hs hunreadable⟩
    obtain ⟨e, -, he⟩ := exists_of_forall₂ (mapM_eq_ok.1 hes) hmem
    exact not_unreadable_of_get he hunreadable
  · intro h
    cases hfound : s.getChunk found chunk with
    | ok found' => exact ⟨found', rfl⟩
    | error e =>
      obtain ⟨item, hchunk, fault, hfault, -⟩ := (getChunk_eq_error hs ht).1 hfound
      exact absurd ⟨fault, hfault⟩ (h item hchunk)

/-- Embeddings that were read one by one take the places of their items. -/
theorem get?_foldl_insert {items : List String} {es : List Embedding}
    (hes : List.Forall₂ (fun item e => s.get item = .ok e) items es)
    (h : Keyed.Rising found.entries) (item : String) :
    Keyed.Rising (es.foldl (fun found e => found.insert e.item e) found).entries ∧
      (es.foldl (fun found e => found.insert e.item e) found).get? item =
        if item ∈ items then (s.get item).toOption else found.get? item := by
  induction hes generalizing found with
  | nil => exact ⟨h, by rw [if_neg List.not_mem_nil]; rfl⟩
  | @cons x e items es hx _ ih =>
    have hitem := item_of_get hx
    obtain ⟨hrising, hget⟩ := ih (Keyed.rising_alter h e.item fun _ => e)
    refine ⟨hrising, hget.trans ?_⟩
    by_cases hmem : item ∈ items
    · rw [if_pos hmem, if_pos (List.mem_cons_of_mem x hmem)]
    · rw [if_neg hmem]
      refine (Keyed.get?_insert h e.item item e).trans ?_
      rw [hitem]
      by_cases heq : item = x
      · rw [if_pos heq, if_pos (heq ▸ List.mem_cons_self), heq, hx]
        rfl
      · rw [if_neg heq, if_neg]
        rw [List.mem_cons]
        exact not_or.2 ⟨heq, hmem⟩

/-- A chunk without unreadable items adds what is read of its stored items. -/
theorem get?_of_getChunk (hs : s.reach = .ok t) (ht : t.Distinct)
    (h : Keyed.Rising found.entries) (hchunk : s.getChunk found chunk = .ok found')
    (item : String) : Keyed.Rising found'.entries ∧ found'.get? item =
      if item ∈ chunk ∧ item ∈ t.items then (s.get item).toOption else found.get? item := by
  rw [getChunk_eq hs ht, map_eq_ok] at hchunk
  obtain ⟨es, hes, rfl⟩ := hchunk
  simpa only [mem_items_rowsOf] using get?_foldl_insert (mapM_eq_ok.1 hes) h item

/-! ## All chunks -/

variable {items : List String}

theorem chunks_nil : chunks [] = [] := by
  rw [chunks]
  rfl

theorem chunks_of_ne_nil (h : items ≠ []) :
    chunks items = items.take chunkSize :: chunks (items.drop chunkSize) := by
  rw [chunks, if_neg (by simpa using h)]

/-- Items are cut chunk by chunk. -/
theorem chunks_induction {motive : List String → Prop} (nil : motive [])
    (cons : ∀ items, items ≠ [] → motive (items.drop chunkSize) → motive items)
    (items : List String) : motive items := by
  induction items using chunks.induct with
  | case1 items h =>
    rw [List.isEmpty_iff.1 h]
    exact nil
  | case2 items h ih => exact cons items (by simpa using h) ih

/-- An item at a place comes no later than another: it is in an earlier chunk, or in the same chunk
with bytes that are not greater. -/
def NoLater (place : Nat) (item : String) (place' : Nat) (item' : String) : Prop :=
  place / chunkSize < place' / chunkSize ∨
    place / chunkSize = place' / chunkSize ∧ Text.bytes item ≤ Text.bytes item'

/-- The fault is that of the unreadable item which comes first. -/
def FirstFault (s : Store) (items : List String) (fault : EncodingFault) : Prop :=
  ∃ place item, items[place]? = some item ∧ s.get item = .error (.encoding fault) ∧
    ∀ place' item', items[place']? = some item' → s.Unreadable item' →
      NoLater place item place' item'

section NoLater

variable {place place' : Nat} {item item' : String}

/-- Within the first chunk, the items count. -/
theorem noLater_iff_le (h : place < chunkSize) (h' : place' < chunkSize) :
    NoLater place item place' item' ↔ item ≤ item' := by
  rw [NoLater, Nat.div_eq_of_lt h, Nat.div_eq_of_lt h', Text.bytes_le_bytes]
  exact ⟨fun hle => (hle.resolve_left (Nat.lt_irrefl 0)).2, fun hle => .inr ⟨rfl, hle⟩⟩

theorem noLater_after (h : place < chunkSize) :
    NoLater place item (chunkSize + place') item' := by
  left
  rw [Nat.div_eq_of_lt h, Nat.add_div_left place' (by decide)]
  exact Nat.succ_pos _

theorem not_noLater_before (h' : place' < chunkSize) :
    ¬ NoLater (chunkSize + place) item place' item' := by
  rw [NoLater, Nat.div_eq_of_lt h', Nat.add_div_left place (by decide)]
  rintro (hlt | ⟨heq, -⟩)
  · exact Nat.not_lt_zero _ hlt
  · exact Nat.succ_ne_zero _ heq

theorem noLater_add_iff :
    NoLater (chunkSize + place) item (chunkSize + place') item' ↔
      NoLater place item place' item' := by
  rw [NoLater, Nat.add_div_left place (by decide), Nat.add_div_left place' (by decide),
    Nat.add_lt_add_iff_right, Nat.add_right_cancel_iff]
  rfl

end NoLater

theorem mem_take_chunkSize {item : String} :
    item ∈ items.take chunkSize ↔ ∃ place < chunkSize, items[place]? = some item := by
  rw [List.mem_iff_getElem?]
  constructor
  · rintro ⟨place, h⟩
    rw [List.getElem?_take] at h
    split at h
    · exact ⟨place, ‹_›, h⟩
    · cases h
  · rintro ⟨place, hplace, h⟩
    exact ⟨place, by rw [List.getElem?_take_of_lt hplace, h]⟩

/-- The first fault is that of the first chunk, or else the first one after it. -/
theorem firstFault_iff (items : List String) {fault : EncodingFault} :
    s.FirstFault items fault ↔
    (∃ item ∈ items.take chunkSize, s.get item = .error (.encoding fault) ∧
      ∀ item' ∈ items.take chunkSize, s.Unreadable item' → item ≤ item') ∨
    ((∀ item ∈ items.take chunkSize, ¬ s.Unreadable item) ∧
      s.FirstFault (items.drop chunkSize) fault) := by
  constructor
  · rintro ⟨place, item, hplace, hitem, hfirst⟩
    by_cases hchunk : place < chunkSize
    · refine .inl ⟨item, mem_take_chunkSize.2 ⟨place, hchunk, hplace⟩, hitem, ?_⟩
      intro item' hitem' hunreadable
      obtain ⟨place', hchunk', hplace'⟩ := mem_take_chunkSize.1 hitem'
      exact (noLater_iff_le hchunk hchunk').1 (hfirst place' item' hplace' hunreadable)
    · obtain ⟨rest, rfl⟩ := Nat.exists_eq_add_of_le (Nat.not_lt.1 hchunk)
      refine .inr ⟨fun item' hitem' hunreadable => ?_, rest, item, ?_, hitem, ?_⟩
      · obtain ⟨place', hchunk', hplace'⟩ := mem_take_chunkSize.1 hitem'
        exact not_noLater_before hchunk' (hfirst place' item' hplace' hunreadable)
      · rw [List.getElem?_drop, hplace]
      · intro place' item' hplace' hunreadable
        rw [List.getElem?_drop] at hplace'
        exact noLater_add_iff.1 (hfirst _ item' hplace' hunreadable)
  · rintro (⟨item, hmem, hitem, hfirst⟩ | ⟨hreadable, rest, item, hrest, hitem, hfirst⟩)
    · obtain ⟨place, hchunk, hplace⟩ := mem_take_chunkSize.1 hmem
      refine ⟨place, item, hplace, hitem, fun place' item' hplace' hunreadable => ?_⟩
      by_cases hchunk' : place' < chunkSize
      · have hmem' := mem_take_chunkSize.2 ⟨place', hchunk', hplace'⟩
        exact (noLater_iff_le hchunk hchunk').2 (hfirst item' hmem' hunreadable)
      · obtain ⟨rest', rfl⟩ := Nat.exists_eq_add_of_le (Nat.not_lt.1 hchunk')
        exact noLater_after hchunk
    · rw [List.getElem?_drop] at hrest
      refine ⟨chunkSize + rest, item, hrest, hitem, fun place' item' hplace' hunreadable => ?_⟩
      by_cases hchunk' : place' < chunkSize
      · exact absurd hunreadable (hreadable item' (mem_take_chunkSize.2 ⟨place', hchunk', hplace'⟩))
      · obtain ⟨rest', rfl⟩ := Nat.exists_eq_add_of_le (Nat.not_lt.1 hchunk')
        rw [noLater_add_iff]
        exact hfirst rest' item' (by rw [List.getElem?_drop, hplace']) hunreadable

/-- All chunks fail with the first fault. The induction is on the chunks; what was found before does
not matter. -/
theorem foldlM_chunks_eq_error (hs : s.reach = .ok t) (ht : t.Distinct) {e : StoreError}
    (items : List String) (found : Keyed Embedding) :
    (chunks items).foldlM s.getChunk found = .error e ↔
      ∃ fault, e = .encoding fault ∧ s.FirstFault items fault := by
  induction items using chunks_induction generalizing found with
  | nil =>
    rw [chunks_nil]
    refine iff_of_false (fun h => by cases h) ?_
    rintro ⟨fault, -, place, item, hplace, -⟩
    cases hplace
  | cons items hne ih =>
    rw [chunks_of_ne_nil hne, foldlM_cons_eq_error]
    simp only [firstFault_iff items, ih]
    constructor
    · rintro (h | ⟨found', hfound, fault, rfl, h⟩)
      · obtain ⟨item, hmem, fault, hitem, rfl, hfirst⟩ := (getChunk_eq_error hs ht).1 h
        exact ⟨fault, rfl, .inl ⟨item, hmem, hitem, hfirst⟩⟩
      · exact ⟨fault, rfl, .inr ⟨(exists_getChunk_iff hs ht).1 ⟨found', hfound⟩, h⟩⟩
    · rintro ⟨fault, rfl, ⟨item, hmem, hitem, hfirst⟩ | ⟨hreadable, h⟩⟩
      · exact .inl ((getChunk_eq_error hs ht).2 ⟨item, hmem, fault, hitem, rfl, hfirst⟩)
      · obtain ⟨found', hfound⟩ := (exists_getChunk_iff hs ht).2 hreadable
        exact .inr ⟨found', hfound, fault, rfl, h⟩

theorem exists_foldlM_chunks_iff (hs : s.reach = .ok t) (ht : t.Distinct) (items : List String)
    (found : Keyed Embedding) :
    (∃ found', (chunks items).foldlM s.getChunk found = .ok found') ↔
      ∀ item ∈ items, ¬ s.Unreadable item := by
  induction items using chunks_induction generalizing found with
  | nil =>
    rw [chunks_nil]
    exact iff_of_true ⟨found, rfl⟩ fun item h => (List.not_mem_nil h).elim
  | cons items hne ih =>
    have hmem {item : String} :
        item ∈ items ↔ item ∈ items.take chunkSize ∨ item ∈ items.drop chunkSize := by
      rw [← List.mem_append, List.take_append_drop]
    rw [chunks_of_ne_nil hne, List.foldlM_cons]
    constructor
    · rintro ⟨found', h⟩ item hitem
      obtain ⟨found₁, hfirst, hrest⟩ := bind_eq_ok.1 h
      rcases hmem.1 hitem with hitem | hitem
      · exact (exists_getChunk_iff hs ht).1 ⟨found₁, hfirst⟩ item hitem
      · exact (ih found₁).1 ⟨found', hrest⟩ item hitem
    · intro h
      have hfirst : ∃ found₁, s.getChunk found (items.take chunkSize) = .ok found₁ :=
        (exists_getChunk_iff hs ht).2 fun item hitem => h item (hmem.2 (.inl hitem))
      obtain ⟨found₁, hfirst⟩ := hfirst
      obtain ⟨found', hrest⟩ := (ih found₁).2 fun item hitem => h item (hmem.2 (.inr hitem))
      exact ⟨found', bind_eq_ok.2 ⟨found₁, hfirst, hrest⟩⟩

theorem flatten_chunks (items : List String) : (chunks items).flatten = items := by
  induction items using chunks_induction with
  | nil => rw [chunks_nil, List.flatten_nil]
  | cons items hne ih =>
    rw [chunks_of_ne_nil hne, List.flatten_cons, ih, List.take_append_drop]

/-- What is found in chunks is what is found of each item alone. -/
theorem get?_of_foldlM_getChunk (hs : s.reach = .ok t) (ht : t.Distinct)
    (cs : List (List String)) (h : Keyed.Rising found.entries)
    (hfound : cs.foldlM s.getChunk found = .ok found') (item : String) :
    Keyed.Rising found'.entries ∧ found'.get? item =
      if item ∈ cs.flatten ∧ item ∈ t.items then (s.get item).toOption
      else found.get? item := by
  induction cs generalizing found with
  | nil =>
    cases hfound
    exact ⟨h, by rw [if_neg fun hmem => List.not_mem_nil hmem.1]⟩
  | cons c cs ih =>
    rw [List.foldlM_cons] at hfound
    obtain ⟨found₁, hfirst, hrest⟩ := bind_eq_ok.1 hfound
    obtain ⟨hrising, hget⟩ := get?_of_getChunk hs ht h hfirst item
    obtain ⟨hrising', hget'⟩ := ih hrising hrest
    refine ⟨hrising', ?_⟩
    simp only [hget', hget, List.flatten_cons, List.mem_append]
    by_cases hcs : item ∈ cs.flatten ∧ item ∈ t.items
    · rw [if_pos hcs, if_pos ⟨.inr hcs.1, hcs.2⟩]
    · rw [if_neg hcs]
      refine if_congr ?_ rfl rfl
      tauto

/-- A lookup of many items succeeds exactly if none of them is unreadable. Then it has just those
items that are stored, with what is found of each of them alone; otherwise it fails with the fault of
the unreadable item that comes first, by chunk and then by rising item. -/
theorem getMany_agrees (hs : s.reach = .ok t) (ht : t.Distinct) (items : List String) :
    ((∃ found, s.getMany items = .ok found) ↔
      ∀ item ∈ items, ∀ fault, s.get item ≠ .error (.encoding fault)) ∧
    (∀ found, s.getMany items = .ok found → Keyed.Rising found.entries ∧
      (∀ item, item ∈ found.keys ↔ item ∈ items ∧ item ∈ t.items) ∧
      ∀ item, found.get? item = if item ∈ items then (s.get item).toOption else none) ∧
    ∀ e, s.getMany items = .error e ↔ ∃ fault, e = .encoding fault ∧ s.FirstFault items fault := by
  have hexists := exists_foldlM_chunks_iff hs ht items .empty
  refine ⟨?_, fun found hfound => ?_, fun e => foldlM_chunks_eq_error hs ht items .empty⟩
  · rw [getMany, hexists]
    simp only [Unreadable, not_exists, ne_eq]
  · have hreadable := hexists.1 ⟨found, hfound⟩
    have hget (item : String) := get?_of_foldlM_getChunk hs ht (chunks items) Keyed.rising_empty
      hfound item
    simp only [flatten_chunks] at hget
    refine ⟨(hget "").1, fun item => ?_, fun item => ?_⟩
    · rw [Keyed.mem_keys, (hget item).2]
      by_cases hmem : item ∈ items ∧ item ∈ t.items
      · obtain ⟨e, he⟩ := (get_of_mem_items hs hmem.2).resolve_right (hreadable item hmem.1)
        rw [if_pos hmem, he]
        exact iff_of_true rfl hmem
      · rw [if_neg hmem]
        exact iff_of_false (fun h => by cases h) hmem
    · rw [(hget item).2]
      by_cases hstored : item ∈ t.items
      · exact if_congr (and_iff_left hstored) rfl rfl
      · rw [if_neg fun h => hstored h.2, get_of_not_mem_items hs hstored, Except.toOption, ite_self]
        rfl

/-- The row of `b` has a bad instant and that of `c` a bad vector; `b` comes first by item, and `c`
by chunk. -/
def unreadableRows : Table := [
  ⟨"c", "[1.0", "1970-01-01T00:00:00+00:00"⟩,
  ⟨"a", "[1.0]", "1970-01-01T00:00:00+00:00"⟩,
  ⟨"b", "[1.0]", "yesterday"⟩]

/-- An empty store that was given these rows. -/
def unreadableStore : Store := (Store.empty none).withTable unreadableRows

theorem getMany_agrees_unreadableRows :
    unreadableStore.getMany (List.replicate 500 "c" ++ ["b"]) =
      .error (.encoding (.invalidVector "c")) ∧
    unreadableStore.getMany (List.replicate 499 "c" ++ ["b"]) =
      .error (.encoding (.invalidInstant "b")) ∧
    ∃ found, unreadableStore.getMany ["missing", "a", "missing"] = .ok found ∧
      found.get? "a" = some ⟨"a", [.one], ⟨0, 0⟩⟩ ∧ found.get? "missing" = none := by
  have hs : unreadableStore.reach = .ok unreadableRows := rfl
  have ht : unreadableRows.Distinct := by
    unfold Table.Distinct
    decide
  refine ⟨?_, ?_, ?_⟩
  · refine ((getMany_agrees hs ht _).2.2 _).2 ⟨_, rfl, 0, "c", rfl, by decide +kernel, ?_⟩
    intro place item hplace _
    by_cases hchunk : place < 500
    · rw [List.getElem?_append_left (by rwa [List.length_replicate]), List.getElem?_replicate,
        if_pos hchunk] at hplace
      cases hplace
      exact (noLater_iff_le (by decide) hchunk).2 le_rfl
    · obtain ⟨rest, rfl⟩ := Nat.exists_eq_add_of_le (Nat.not_lt.1 hchunk)
      exact noLater_after (by decide)
  · refine ((getMany_agrees hs ht _).2.2 _).2
      ⟨_, rfl, 499, "b", by decide +kernel, by decide +kernel, ?_⟩
    intro place item hplace _
    have hlt : place < 500 := by
      obtain ⟨h, -⟩ := List.getElem?_eq_some_iff.1 hplace
      rwa [List.length_append, List.length_replicate, List.length_singleton] at h
    refine (noLater_iff_le (by decide) hlt).2 ?_
    rcases List.mem_append.1 (List.mem_of_getElem? hplace) with hmem | hmem
    · rw [List.eq_of_mem_replicate hmem]
      decide
    · exact (List.mem_singleton.1 hmem).ge
  · have hreadable : ∀ item ∈ ["missing", "a", "missing"], ∀ fault,
        unreadableStore.get item ≠ .error (.encoding fault) := by
      have hread : ∀ item ∈ ["missing", "a", "missing"],
          unreadableStore.get item = .ok ⟨"a", [.one], ⟨0, 0⟩⟩ ∨
            unreadableStore.get item = .error (.notFound item) := by decide +kernel
      intro item hitem fault h
      rcases hread item hitem with hread | hread
      · rw [hread] at h
        cases h
      · rw [hread] at h
        cases h
    obtain ⟨hok, hfound, -⟩ := getMany_agrees hs ht ["missing", "a", "missing"]
    obtain ⟨found, h⟩ := hok.2 hreadable
    obtain ⟨-, -, hget⟩ := hfound found h
    refine ⟨found, h, (hget "a").trans (by decide +kernel), (hget "missing").trans ?_⟩
    decide +kernel

end Store

end SimilarItems
