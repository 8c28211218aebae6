import Mathlib.Data.List.Induction
import SimilarItems.Proofs.Store.History

/-!
# The last write counts

Calls of every kind go to a store one after the other, and some of them fail. What the store has for
an item afterwards is decided by the last accepted write that names the item, unless the item was
deleted after it.
-/

namespace SimilarItems

/-- A call to a store. -/
inductive Call where
  /-- It writes or deletes. -/
  | change (c : Change)
  /-- It reads the embedding of an item. -/
  | get (item : String)
  /-- It reads the embeddings of some items. -/
  | getMany (items : List String)
  /-- It reads a page. -/
  | scan (offset : Nat) (limit : Option Nat)
  /-- It reads the nearest items. -/
  | similar (item : String) (n : Nat)

namespace Call

/-- The store after a call that succeeds. Reading leaves it as it is. -/
def run (s : Store) : Call → Except StoreError Store
  | change c => c.run s
  | get item => (s.get item).map fun _ => s
  | getMany items => (s.getMany items).map fun _ => s
  | scan offset limit => (s.scan offset limit).map fun _ => s
  | similar item n => (s.similar item n).map fun _ => s

/-- The store after calls one after the other. A call that fails changes nothing. -/
def after (s : Store) (calls : List Call) : Store :=
  calls.foldl (fun s c => (c.run s).toOption.getD s) s

/-- The embeddings that the call writes. -/
def embeddings : Call → List Embedding
  | change c => c.embeddings
  | _ => []

/-- The store accepts the call, which writes `e` for an item, last if it names the item often. -/
structure Writes (s : Store) (c : Call) (item : String) (e : Embedding) : Prop where
  accepted : ∃ s', c.run s = .ok s'
  last : (c.embeddings.reverse.find? fun e => e.item = item) = some e

/-- An item was written and not deleted since. -/
def WrittenSince (s : Store) (calls : List Call) (item : String) : Prop :=
  ∃ before c rest e, calls = before ++ c :: rest ∧ c.Writes (after s before) item e ∧
    change (.delete item) ∉ rest

/-- The last write of an item wrote `e`, and the item was not deleted since. -/
def LastWritten (s : Store) (calls : List Call) (item : String) (e : Embedding) : Prop :=
  ∃ before c rest, calls = before ++ c :: rest ∧ c.Writes (after s before) item e ∧
    change (.delete item) ∉ rest ∧
    ∀ between c' rest' e', rest = between ++ c' :: rest' →
      ¬ c'.Writes (after s (before ++ c :: between)) item e'

variable {s : Store} {calls : List Call} {c : Call} {item : String} {e : Embedding}

theorem Writes.unique {e' : Embedding} (h : c.Writes s item e) (h' : c.Writes s item e') :
    e = e' := Option.some.inj (h.last.symm.trans h'.last)

theorem writtenSince_append_singleton :
    WrittenSince s (calls ++ [c]) item ↔ (∃ e, c.Writes (after s calls) item e) ∨
      WrittenSince s calls item ∧ c ≠ change (.delete item) := by
  constructor
  · rintro ⟨before, c', rest, e, hsplit, hwrites, hdelete⟩
    rcases append_singleton_eq_append_cons.1 hsplit with ⟨rfl, rfl, rfl⟩ | ⟨rest, rfl, rfl⟩
    · exact Or.inl ⟨e, hwrites⟩
    · rw [List.mem_append, List.mem_singleton, not_or] at hdelete
      exact Or.inr ⟨⟨before, c', rest, e, rfl, hwrites, hdelete.1⟩, Ne.symm hdelete.2⟩
  · rintro (⟨e, hwrites⟩ | ⟨⟨before, c', rest, e, rfl, hwrites, hdelete⟩, hc⟩)
    · exact ⟨calls, c, [], e, rfl, hwrites, List.not_mem_nil⟩
    · refine ⟨before, c', rest ++ [c], e, by simp, hwrites, ?_⟩
      rw [List.mem_append, List.mem_singleton, not_or]
      exact ⟨hdelete, Ne.symm hc⟩

theorem lastWritten_append_singleton :
    LastWritten s (calls ++ [c]) item e ↔ c.Writes (after s calls) item e ∨
      LastWritten s calls item e ∧ (∀ e', ¬ c.Writes (after s calls) item e') ∧
        c ≠ change (.delete item) := by
  constructor
  · rintro ⟨before, c', rest, hsplit, hwrites, hdelete, hlast⟩
    rcases append_singleton_eq_append_cons.1 hsplit with ⟨rfl, rfl, rfl⟩ | ⟨rest, rfl, rfl⟩
    · exact Or.inl hwrites
    · rw [List.mem_append, List.mem_singleton, not_or] at hdelete
      refine Or.inr ⟨⟨before, c', rest, rfl, hwrites, hdelete.1, ?_⟩, ?_, Ne.symm hdelete.2⟩
      · rintro between d rest' e' rfl
        exact hlast between d (rest' ++ [c]) e' (by simp)
      · intro e'
        exact hlast rest c [] e' rfl
  · rintro (hwrites | ⟨⟨before, c', rest, rfl, hwrites, hdelete, hlast⟩, hc, hne⟩)
    · refine ⟨calls, c, [], rfl, hwrites, List.not_mem_nil, ?_⟩
      intro between d rest' e' hsplit
      simp at hsplit
    · refine ⟨before, c', rest ++ [c], by simp, hwrites, ?_, ?_⟩
      · rw [List.mem_append, List.mem_singleton, not_or]
        exact ⟨hdelete, Ne.symm hne⟩
      · intro between d rest' e' hsplit
        rcases append_singleton_eq_append_cons.1 hsplit with ⟨rfl, rfl, rfl⟩ | ⟨rest', rfl, rfl⟩
        · exact hc e'
        · exact hlast between d rest' e' rfl

/-! ## Calls and histories -/

/-- The change that a call makes, if it is accepted. -/
def change? : Call → Option Change
  | change c => some c
  | _ => none

/-- The changes among calls. -/
def changes (calls : List Call) : List Change := calls.filterMap change?

theorem changes_append_singleton (calls : List Call) (c : Call) :
    changes (calls ++ [c]) = changes calls ++ c.change?.toList := by
  unfold changes
  rw [List.filterMap_append]
  cases c <;> rfl

theorem after_append_singleton :
    after s (calls ++ [c]) = (c.run (after s calls)).toOption.getD (after s calls) := by
  unfold after
  rw [List.foldl_append]
  rfl

/-- Reading calls leave no trace in the store. -/
theorem after_eq (s : Store) (calls : List Call) :
    after s calls = (History.after s (changes calls)).store := by
  have hread {α : Type} (s : Store) (x : Except StoreError α) :
      (x.map fun _ => s).toOption.getD s = s := by
    cases x <;> rfl
  induction calls using List.reverseRecOn with
  | nil => rfl
  | append_singleton calls c ih =>
    rw [after_append_singleton, changes_append_singleton]
    cases c with
    | change d =>
      show _ = (History.after s (changes calls ++ [d])).store
      rw [History.after_append_singleton, History.store_step, ← ih]
      rfl
    | get | getMany | scan | similar =>
      show (Except.map _ _).toOption.getD _ = (History.after s (changes calls ++ [])).store
      rw [hread, List.append_nil, ih]

/-- The embedding that the history of the changes among calls has for an item. -/
def written (s : Store) (calls : List Call) (item : String) : Option Embedding :=
  (History.after s (changes calls)).written item

theorem written_append_change (d : Change) :
    written s (calls ++ [change d]) item =
      ((History.after s (changes calls)).step d).written item := by
  unfold written
  rw [changes_append_singleton]
  show (History.after s (changes calls ++ [d])).written item = _
  rw [History.after_append_singleton]

theorem written_of_writes (h : c.Writes (after s calls) item e) :
    written s (calls ++ [c]) item = some e := by
  obtain ⟨⟨s', hrun⟩, hlast⟩ := h
  cases c with
  | change d =>
    have hd : d ≠ .delete item := by
      rintro rfl
      cases hlast
    rw [after_eq] at hrun
    rw [written_append_change, History.step_of_ok hrun]
    show d.recordAll _ item = some e
    rw [Change.recordAll_eq hd]
    unfold embeddings at hlast
    rw [hlast, Option.some_or]
  | get | getMany | scan | similar => cases hlast

theorem written_of_not_writes (h : ∀ e, ¬ c.Writes (after s calls) item e)
    (hc : c ≠ change (.delete item)) : written s (calls ++ [c]) item = written s calls item := by
  cases c with
  | change d =>
    rw [written_append_change]
    cases hrun : d.run (History.after s (changes calls)).store with
    | error error => rw [History.step_of_error hrun, written]
    | ok s' =>
      rw [History.step_of_ok hrun]
      show d.recordAll _ item = _
      have hd : d ≠ .delete item := fun heq => hc (congrArg change heq)
      rw [Change.recordAll_eq hd]
      cases hlast : d.embeddings.reverse.find? fun e => e.item = item with
      | none => rw [Option.none_or, written]
      | some e =>
        have haccepted : ∃ s', (change d).run (after s calls) = .ok s' :=
          ⟨s', by rw [after_eq]; exact hrun⟩
        exact absurd ⟨haccepted, hlast⟩ (h e)
  | get | getMany | scan | similar =>
    show (History.after s (changes (calls ++ [_]))).written item = _
    rw [changes_append_singleton]
    show (History.after s (changes calls ++ [])).written item = _
    rw [List.append_nil, written]

theorem written_of_delete (hs : s.reach = .ok []) :
    written s (calls ++ [change (.delete item)]) item = none := by
  obtain ⟨t, hholds⟩ := History.holds_after hs (changes calls)
  have hrun : (Change.delete item).run (History.after s (changes calls)).store =
      .ok ((History.after s (changes calls)).store.withTable (Table.delete item t)) :=
    Store.delete_eq_ok.2 ⟨t, hholds.reach, rfl⟩
  rw [written_append_change, History.step_of_ok hrun]
  show Function.update (History.after s (changes calls)).written item none item = none
  rw [Function.update_self]

/-- What the history has for an item is what was written last, as long as it was not deleted. -/
theorem written_eq_some_iff (hs : s.reach = .ok []) :
    written s calls item = some e ↔ LastWritten s calls item e := by
  induction calls using List.reverseRecOn generalizing e with
  | nil =>
    constructor
    · intro h
      cases h
    · rintro ⟨before, c, rest, hsplit, -⟩
      simp at hsplit
  | append_singleton calls c ih =>
    rw [lastWritten_append_singleton]
    by_cases hwrites : ∃ e', c.Writes (after s calls) item e'
    · obtain ⟨e', hwrites⟩ := hwrites
      rw [written_of_writes hwrites]
      constructor
      · rintro ⟨⟩
        exact Or.inl hwrites
      · rintro (h | ⟨-, h, -⟩)
        · rw [hwrites.unique h]
        · exact absurd hwrites (h e')
    · rw [not_exists] at hwrites
      by_cases hc : c = change (.delete item)
      · subst hc
        rw [written_of_delete hs]
        simp [hwrites]
      · rw [written_of_not_writes hwrites hc, ih]
        simp [hwrites, hc]

theorem writtenSince_iff : WrittenSince s calls item ↔ ∃ e, LastWritten s calls item e := by
  induction calls using List.reverseRecOn with
  | nil =>
    constructor
    · rintro ⟨before, c, rest, e, hsplit, -⟩
      simp at hsplit
    · rintro ⟨e, before, c, rest, hsplit, -⟩
      simp at hsplit
  | append_singleton calls c ih =>
    rw [writtenSince_append_singleton, ih]
    simp only [lastWritten_append_singleton, exists_or]
    by_cases hwrites : ∃ e, c.Writes (after s calls) item e
    · simp [hwrites]
    · rw [not_exists] at hwrites
      simp [hwrites]

/-! ## Reading -/

/-- After any calls to an empty store, no item has two rows, and an item that was not written since
its last deletion is not found. Any other item is found as what decoding makes of its last write. -/
theorem last_write_counts (hs : s.reach = .ok []) (calls : List Call) :
    (∃ t, (after s calls).reach = .ok t ∧ t.Distinct) ∧ ∀ item,
      ((after s calls).get item = .error (.notFound item) ↔ ¬ WrittenSince s calls item) ∧
      (WrittenSince s calls item → ∃ e, LastWritten s calls item e) ∧
      ∀ e, LastWritten s calls item e →
        ∃ row, Row.ofEmbedding e = .ok row ∧ (after s calls).get item = Store.read row := by
  obtain ⟨t, hholds⟩ := History.holds_after hs (changes calls)
  rw [after_eq]
  refine ⟨⟨t, hholds.reach, hholds.distinct⟩, fun item => ⟨?_, writtenSince_iff.1, fun e he => ?_⟩⟩
  · rw [hholds.get_eq_notFound_iff, writtenSince_iff, Option.eq_none_iff_forall_ne_some, not_exists]
    exact forall_congr' fun e => not_congr (written_eq_some_iff hs)
  · obtain ⟨row, hrow, hof⟩ := hholds.exists_row ((written_eq_some_iff hs).2 he)
    exact ⟨row, hof, Store.get_of_row? hholds.reach hrow⟩

/-- A batch that writes an item twice, a write of another dimension, a batch that is refused for its
second embedding, reads between them, and a deletion after which the item is not written again. -/
def mixedCalls : List Call := [
  .change (.put ⟨"a", [.one], ⟨0, 0⟩⟩),
  .get "b",
  .change (.putMany [⟨"b", [.one], ⟨0, 0⟩⟩, ⟨"a", [.zero false], ⟨5, 0⟩⟩, ⟨"b", [.zero true], ⟨9, 0⟩⟩]),
  .change (.put ⟨"b", [.one, .one], ⟨0, 0⟩⟩),
  .change (.delete "a"),
  .similar "a" 3,
  .change (.putMany [⟨"a", [.one], ⟨0, 0⟩⟩, ⟨"b", [.infinity false], ⟨0, 0⟩⟩]),
  .scan 0 none]

theorem last_write_counts_mixedCalls :
    (Store.empty (some 1)).reach = .ok [] ∧
      ¬ WrittenSince (.empty (some 1)) mixedCalls "a" ∧
      LastWritten (.empty (some 1)) mixedCalls "b" ⟨"b", [.zero true], ⟨9, 0⟩⟩ ∧
      (after (.empty (some 1)) mixedCalls).get "b" = .ok ⟨"b", [.zero true], ⟨9, 0⟩⟩ := by
  have hs : (Store.empty (some 1)).reach = .ok [] := rfl
  obtain ⟨-, hcounts⟩ := last_write_counts hs mixedCalls
  have hlast : LastWritten (.empty (some 1)) mixedCalls "b" ⟨"b", [.zero true], ⟨9, 0⟩⟩ :=
    (written_eq_some_iff hs).1 (by decide +kernel)
  obtain ⟨row, hrow, hget⟩ := (hcounts "b").2.2 _ hlast
  refine ⟨hs, (hcounts "a").1.1 (by decide +kernel), hlast, ?_⟩
  rw [hget, ← Except.ok.inj hrow]
  decide +kernel

end Call

end SimilarItems
