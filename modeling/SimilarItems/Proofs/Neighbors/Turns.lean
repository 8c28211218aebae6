import SimilarItems.Neighbors.Script
import SimilarItems.Proofs.Store.Operations

/-!
# What a turn does to a run

An item of a page that has been read either vanished, and then its turn changes nothing but the
counts, or its list is handed to the receiver, whose actions may change the store. What the receiver
does in a run can be told again from the lists that it took.
-/

namespace SimilarItems.Neighbors

/-- The item whose embedding an action may change. -/
def Action.target? : Action → Option String
  | .cancel => none
  | .delete item => some item
  | .put e => some e.item

namespace Receiver

variable {σ : Type}

/-- What a receiver answers to lists that it is handed one after another. -/
def responses (receiver : Receiver σ) : σ → List (String × List Score) → List (Response σ)
  | _, [] => []
  | memory, l :: lists =>
    receiver memory l.1 l.2 :: responses receiver (receiver memory l.1 l.2).memory lists

/-- What a receiver remembers after lists that it was handed one after another. -/
def memoryAfter (receiver : Receiver σ) (memory : σ) (lists : List (String × List Score)) : σ :=
  lists.foldl (fun memory l => (receiver memory l.1 l.2).memory) memory

/-- While it is handed lists, the receiver leaves an item alone. -/
def Spares (receiver : Receiver σ) (memory : σ) (lists : List (String × List Score)) (x : String) :
    Prop :=
  ∀ response ∈ receiver.responses memory lists, ∀ a ∈ response.actions, a.target? ≠ some x

instance (receiver : Receiver σ) (memory : σ) (lists : List (String × List Score)) (x : String) :
    Decidable (receiver.Spares memory lists x) :=
  inferInstanceAs (Decidable (∀ response ∈ receiver.responses memory lists,
    ∀ a ∈ response.actions, a.target? ≠ some x))

theorem forall_responses {receiver : Receiver σ} {P : Response σ → Prop}
    (h : ∀ memory item scores, P (receiver memory item scores)) (memory : σ)
    (lists : List (String × List Score)) : ∀ response ∈ receiver.responses memory lists, P response := by
  induction lists generalizing memory with
  | nil =>
    intro response hresponse
    cases hresponse
  | cons l lists ih => exact List.forall_mem_cons.2 ⟨h memory l.1 l.2, ih _⟩

theorem responses_append (receiver : Receiver σ) (memory : σ) (l₁ l₂ : List (String × List Score)) :
    receiver.responses memory (l₁ ++ l₂) =
      receiver.responses memory l₁ ++ receiver.responses (receiver.memoryAfter memory l₁) l₂ := by
  induction l₁ generalizing memory with
  | nil => rfl
  | cons l l₁ ih =>
    rw [List.cons_append, responses, responses, ih, List.cons_append]
    rfl

theorem spares_append {receiver : Receiver σ} {memory : σ} {l₁ l₂ : List (String × List Score)}
    {x : String} :
    receiver.Spares memory (l₁ ++ l₂) x ↔
      receiver.Spares memory l₁ x ∧ receiver.Spares (receiver.memoryAfter memory l₁) l₂ x := by
  simp only [Spares, responses_append, List.mem_append, or_imp, forall_and]

theorem spares_cons {receiver : Receiver σ} {memory : σ} {l : String × List Score}
    {lists : List (String × List Score)} {x : String} :
    receiver.Spares memory (l :: lists) x ↔
      (∀ a ∈ (receiver memory l.1 l.2).actions, a.target? ≠ some x) ∧
        receiver.Spares (receiver memory l.1 l.2).memory lists x := by
  simp only [Spares, responses, List.mem_cons, forall_eq_or_imp]

end Receiver

theorem storedItems_of_reach {s : Store} {t : Table} (h : s.reach = .ok t) :
    storedItems s = t.items := by
  rw [storedItems, h]
  rfl

theorem mem_storedItems_of_similar {s : Store} {n : Nat} {item : String} {found : Nearest}
    (h : s.similar item n = .ok found) : item ∈ storedItems s := by
  obtain ⟨t, ht, hitem⟩ := Store.mem_items_of_similar h
  rwa [storedItems_of_reach ht]

theorem notMem_storedItems_of_similar {s : Store} {n : Nat} {item x : String}
    (h : s.similar item n = .error (.notFound x)) : item ∉ storedItems s := by
  obtain ⟨-, t, ht, hno⟩ := Store.similar_eq_notFound.1 h
  rwa [storedItems_of_reach ht]

namespace Progress

variable {σ : Type}

/-! ## Actions -/

/-- An action either leaves the store as it is, or takes out its item, or brings in its item. -/
theorem store_act (p : Progress σ) (a : Action) :
    (p.act a).store = p.store ∨ ∃ t, p.store.reach = .ok t ∧
      ((∃ item, a = .delete item ∧ (p.act a).store = p.store.withTable (Table.delete item t)) ∨
        ∃ e row, a = .put e ∧ row.item = e.item ∧
          (p.act a).store = p.store.withTable (Table.upsert row t)) := by
  cases a with
  | cancel => exact .inl rfl
  | delete item =>
    cases h : p.store.delete item with
    | error error => exact .inl (by rw [act, h]; rfl)
    | ok s =>
      obtain ⟨t, ht, rfl⟩ := Store.delete_eq_ok.1 h
      exact .inr ⟨t, ht, .inl ⟨item, rfl, by rw [act, h]; rfl⟩⟩
  | put e =>
    cases h : p.store.put e with
    | error error => exact .inl (by rw [act, h]; rfl)
    | ok s =>
      obtain ⟨row, t, hrow, ht, rfl⟩ := Store.put_eq_ok.1 h
      exact .inr ⟨t, ht, .inr ⟨e, row, rfl, Store.item_of_rowFor hrow, by rw [act, h]; rfl⟩⟩

/-- What is stored after an action are the same items, or those of a table without the deleted row or
with the written one. -/
theorem storedItems_act (p : Progress σ) (a : Action) :
    storedItems (p.act a).store = storedItems p.store ∨ ∃ t : Table, storedItems p.store = t.items ∧
      ((∃ item, a = .delete item ∧ storedItems (p.act a).store = (Table.delete item t).items) ∨
        ∃ e row, a = .put e ∧ row.item = e.item ∧
          storedItems (p.act a).store = (Table.upsert row t).items) := by
  rcases store_act p a with hs | ⟨t, ht, hs⟩
  · exact .inl (by rw [hs])
  · refine .inr ⟨t, storedItems_of_reach ht, ?_⟩
    rcases hs with ⟨item, ha, hs⟩ | ⟨e, row, ha, hrow, hs⟩
    · exact .inl ⟨item, ha, by rw [hs, storedItems_of_reach (Store.reach_withTable ht _)]⟩
    · exact .inr ⟨e, row, ha, hrow, by rw [hs, storedItems_of_reach (Store.reach_withTable ht _)]⟩

/-- What every action keeps is kept by all of them. -/
theorem acts_induction {P : Progress σ → Prop} {Q : Action → Prop}
    (hact : ∀ p a, Q a → P p → P (p.act a)) {p : Progress σ} (hp : P p) {actions : List Action}
    (hactions : ∀ a ∈ actions, Q a) : P (actions.foldl act p) := by
  induction actions generalizing p with
  | nil => exact hp
  | cons a actions ih =>
    rw [List.forall_mem_cons] at hactions
    exact ih (hact p a hactions.1 hp) hactions.2

/-- An action brings no item in twice. -/
theorem nodup_act {p : Progress σ} (h : (storedItems p.store).Nodup) (a : Action) :
    (storedItems (p.act a).store).Nodup := by
  rcases storedItems_act p a with hs | ⟨t, ht, ⟨item, -, hs⟩ | ⟨e, row, -, -, hs⟩⟩
  · rwa [hs]
  · rw [ht] at h
    rw [hs]
    exact Table.distinct_delete h
  · rw [ht] at h
    rw [hs]
    exact Table.distinct_upsert h

theorem mem_storedItems_act {p : Progress σ} {a : Action} {x : String}
    (hx : x ∈ storedItems p.store) (ha : a.target? ≠ some x) : x ∈ storedItems (p.act a).store := by
  rcases storedItems_act p a with hs | ⟨t, ht, ⟨item, rfl, hs⟩ | ⟨e, row, rfl, hrow, hs⟩⟩
  · rwa [hs]
  · rw [hs]
    exact Table.mem_items_delete.2 ⟨ht ▸ hx, fun heq => ha (by rw [heq]; rfl)⟩
  · rw [hs]
    exact Table.mem_items_upsert.2 (.inl (ht ▸ hx))

theorem nodup_acts {p : Progress σ} (h : (storedItems p.store).Nodup) (actions : List Action) :
    (storedItems (actions.foldl act p).store).Nodup :=
  acts_induction (P := fun p => (storedItems p.store).Nodup) (Q := fun _ => True)
    (fun _ a _ hp => nodup_act hp a) h fun _ _ => trivial

theorem mem_storedItems_acts {p : Progress σ} {actions : List Action} {x : String}
    (hx : x ∈ storedItems p.store) (ha : ∀ a ∈ actions, a.target? ≠ some x) :
    x ∈ storedItems (actions.foldl act p).store :=
  acts_induction (P := fun p => x ∈ storedItems p.store) (Q := fun a => a.target? ≠ some x)
    (fun _ _ ha hp => mem_storedItems_act hp ha) hx ha

theorem acts_eq (p : Progress σ) (actions : List Action) :
    actions.foldl act p = { p with
      store := (actions.foldl act p).store, cancelled := (actions.foldl act p).cancelled } := by
  induction actions generalizing p with
  | nil => rfl
  | cons a actions ih =>
    rw [List.foldl_cons, ih (p.act a)]
    cases a <;> rfl

/-! ## Turns -/

/-- The run after its receiver was handed a list, but before that is taken or refused. -/
def respond (receiver : Receiver σ) (p : Progress σ) (item : String) (found : Nearest) :
    Progress σ :=
  (receiver p.memory item found.scores).actions.foldl act
    { p.visit with
      memory := (receiver p.memory item found.scores).memory
      warnings := p.warnings ++ found.warning?.toList }

/-- What an item's turn does to a run, and what stops the run in it. -/
inductive Turn (receiver : Receiver σ) (n : Nat) (p : Progress σ) (item : String) :
    Progress σ → Option RunError → Prop where
  | cancelled (hcancelled : p.cancelled = true) :
      Turn receiver n p item p (some (.cancelled p.summary.visited))
  | vanished (hgoing : p.cancelled = false)
      (hsimilar : p.store.similar item n = .error (.notFound item)) :
      Turn receiver n p item p.visit.vanish none
  | failed (error : StoreError) (hgoing : p.cancelled = false)
      (hsimilar : p.store.similar item n = .error error) (herror : ∀ x, error ≠ .notFound x) :
      Turn receiver n p item p.visit (some (.store error))
  | taken (found : Nearest) (hgoing : p.cancelled = false)
      (hsimilar : p.store.similar item n = .ok found)
      (hrefusal : (receiver p.memory item found.scores).refusal = none) :
      Turn receiver n p item ((p.respond receiver item found).deliver item found.scores) none
  | refused (found : Nearest) (text : String) (hgoing : p.cancelled = false)
      (hsimilar : p.store.similar item n = .ok found)
      (hrefusal : (receiver p.memory item found.scores).refusal = some text) :
      Turn receiver n p item (p.respond receiver item found) (some (.sink item text))

/-- Every turn is of one of these kinds. -/
theorem turn_of_step {receiver : Receiver σ} {n : Nat} {p p' : Progress σ} {item : String}
    {stop : Option RunError} (h : step receiver n p item = (p', stop)) :
    Turn receiver n p item p' stop := by
  rw [step] at h
  split at h
  · rename_i hcancelled
    cases h
    exact .cancelled hcancelled
  · rename_i hcancelled
    have hgoing : p.cancelled = false := Bool.eq_false_iff.2 hcancelled
    split at h
    · rename_i x hx
      cases h
      obtain ⟨rfl, -⟩ := Store.similar_eq_notFound.1 hx
      exact .vanished hgoing hx
    · rename_i e herror hsimilar
      cases h
      exact .failed e hgoing hsimilar herror
    · rename_i found hfound
      rw [hand] at h
      split at h
      · rename_i text hrefusal
        cases h
        exact .refused found text hgoing hfound hrefusal
      · rename_i hrefusal
        cases h
        exact .taken found hgoing hfound hrefusal

end Progress

end SimilarItems.Neighbors
