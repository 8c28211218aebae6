import SimilarItems.Proofs.Neighbors.Accounts
import SimilarItems.Proofs.Neighbors.Scans
import SimilarItems.Proofs.Store.Similar
import SimilarItems.Proofs.Text.Bytes

/-!
# Runs over a store that does not change

A run whose receiver takes every list and leaves the run and the store alone hands over the lists of
all stored items, by rising item, however many items a page has.
-/

namespace SimilarItems.Neighbors

variable {σ : Type}

/-- The response takes the list, and leaves the run and the store as they are. -/
structure Response.Quiet (s : Store) (response : Response σ) : Prop where
  taken : response.refusal = none
  uncancelled : .cancel ∉ response.actions
  unchanged : (History.after s (response.actions.flatMap Action.changes)).store = s

/-- The lists are what the store answers for their items. -/
def Answers (s : Store) (n : Nat) (lists : List (String × List Score)) : Prop :=
  ∀ l ∈ lists, (s.similar l.1 n).map (·.scores) = .ok l.2

theorem exists_answers {s : Store} {n : Nat} (items : List String)
    (h : ∀ item ∈ items, ∃ found, s.similar item n = .ok found) :
    ∃ lists, lists.map (·.1) = items ∧ Answers s n lists := by
  induction items with
  | nil => exact ⟨[], rfl, fun l hl => by cases hl⟩
  | cons item items ih =>
    rw [List.forall_mem_cons] at h
    obtain ⟨found, hfound⟩ := h.1
    obtain ⟨lists, hitems, hanswers⟩ := ih h.2
    refine ⟨(item, found.scores) :: lists, by rw [List.map_cons, hitems], ?_⟩
    refine List.forall_mem_cons.2 ⟨?_, hanswers⟩
    rw [hfound]
    rfl

namespace Progress

/-- From one progress a run comes to another over an unchanged store, and only lists were taken. -/
structure Gains (receiver : Receiver σ) (s : Store) (p : Progress σ)
    (lists : List (String × List Score)) (p' : Progress σ) : Prop where
  store_eq : p'.store = s
  uncancelled : p'.cancelled = false
  memory_eq : p'.memory = receiver.memoryAfter p.memory lists
  delivered_eq : p'.delivered = p.delivered ++ lists
  summary_eq : p'.summary = ⟨p.summary.visited + lists.length, p.summary.emitted + lists.length,
    p.summary.vanished⟩

variable {receiver : Receiver σ} {n : Nat} {s : Store} {p p₁ p' : Progress σ}
  {lists more : List (String × List Score)}

theorem Gains.refl (hstore : p.store = s) (hcancelled : p.cancelled = false) :
    Gains receiver s p [] p where
  store_eq := hstore
  uncancelled := hcancelled
  memory_eq := rfl
  delivered_eq := (List.append_nil _).symm
  summary_eq := rfl

theorem Gains.trans (h : Gains receiver s p lists p₁) (h' : Gains receiver s p₁ more p') :
    Gains receiver s p (lists ++ more) p' where
  store_eq := h'.store_eq
  uncancelled := h'.uncancelled
  memory_eq := by
    rw [h'.memory_eq, h.memory_eq]
    exact List.foldl_append.symm
  delivered_eq := by rw [h'.delivered_eq, h.delivered_eq, List.append_assoc]
  summary_eq := by
    rw [h'.summary_eq, h.summary_eq, List.length_append, Nat.add_assoc, Nat.add_assoc]

theorem gains_deliver (hstore : p.store = s) (hcancelled : p.cancelled = false) {item : String}
    {found : Nearest} (hquiet : (receiver p.memory item found.scores).Quiet s) :
    Gains receiver s p [(item, found.scores)]
      ((p.respond receiver item found).deliver item found.scores) := by
  constructor
  · show (p.respond receiver item found).store = s
    rw [respond, store_acts_eq]
    show (History.after p.store _).store = s
    rw [hstore]
    exact hquiet.unchanged
  · show (p.respond receiver item found).cancelled = false
    rw [Bool.eq_false_iff, ne_eq, respond, cancelled_acts_iff]
    rintro (hc | hc)
    · have hc' : p.cancelled = true := hc
      rw [hcancelled] at hc'
      cases hc'
    · exact hquiet.uncancelled hc
  all_goals
    rw [deliver, respond, acts_eq]
    rfl

/-- The turn of an item whose list the receiver takes. -/
theorem exists_step (hstore : p.store = s) (hcancelled : p.cancelled = false) {item : String}
    {scores : List Score} (hanswer : (s.similar item n).map (·.scores) = .ok scores)
    (hquiet : (receiver p.memory item scores).Quiet s) :
    ∃ p', step receiver n p item = (p', none) ∧ Gains receiver s p [(item, scores)] p' := by
  obtain ⟨found, hfound, rfl⟩ := map_eq_ok.1 hanswer
  refine ⟨_, ?_, gains_deliver hstore hcancelled hquiet⟩
  have hsimilar : p.visit.store.similar item n = .ok found := by
    rw [← hfound, ← hstore]
    rfl
  have hrefusal : (receiver p.visit.memory item found.scores).refusal = none := hquiet.taken
  rw [step, if_neg (Bool.eq_false_iff.1 hcancelled), hsimilar]
  simp only [hand, hrefusal]
  rfl

theorem exists_steps (hstore : p.store = s) (hcancelled : p.cancelled = false)
    (hanswers : Answers s n lists)
    (hquiet : ∀ response ∈ receiver.responses p.memory lists, response.Quiet s) :
    ∃ p', steps receiver n p (lists.map (·.1)) = (p', none) ∧ Gains receiver s p lists p' := by
  induction lists generalizing p with
  | nil => exact ⟨p, rfl, .refl hstore hcancelled⟩
  | cons l lists ih =>
    obtain ⟨hanswer, hanswers⟩ := List.forall_mem_cons.1 hanswers
    obtain ⟨hfirst, hrest⟩ := List.forall_mem_cons.1 hquiet
    obtain ⟨p₁, hstep, hgains⟩ := exists_step hstore hcancelled hanswer hfirst
    have hmemory : p₁.memory = (receiver p.memory l.1 l.2).memory := hgains.memory_eq
    obtain ⟨p', hsteps, hgains'⟩ :=
      ih hgains.store_eq hgains.uncancelled hanswers (hmemory ▸ hrest)
    refine ⟨p', ?_, hgains.trans hgains'⟩
    rw [List.map_cons, steps, hstep]
    exact hsteps

end Progress

namespace Plan

variable {receiver : Receiver σ} {s : Store} {t : Table} {p : Progress σ}

/-- A full page leaves one page less to be read. -/
theorem pageBound_of_full {plan : Plan} {size : Nat} (hfull : plan.limit = some size)
    (items : Nat) : plan.pageBound (size + items) = plan.pageBound items + 1 := by
  unfold limit at hfull
  split at hfull
  · cases hfull
  · rename_i hsize
    cases hfull
    rw [pageBound, pageBound, Nat.add_div_left _ (Nat.pos_of_ne_zero hsize)]

/-- A run that has gone through the first items goes through the others. -/
theorem exists_pagesFrom (plan : Plan) (ht : s.reach = .ok t)
    (hread : ∀ r ∈ t, ∃ e, Store.read r = .ok e) {lists : List (String × List Score)}
    (hitems : lists.map (·.1) = t.sorted.items) (hanswers : Answers s plan.neighbors lists)
    {before rest : List (String × List Score)} (hlists : lists = before ++ rest)
    (hstore : p.store = s) (hcancelled : p.cancelled = false)
    (hquiet : ∀ response ∈ receiver.responses p.memory rest, response.Quiet s) {pages : Nat}
    (hpages : plan.pageBound rest.length ≤ pages) :
    ∃ p', Progress.pagesFrom receiver plan.neighbors plan.limit pages before.length p =
      (p', .completed) ∧ Progress.Gains receiver s p rest p' := by
  induction pages generalizing before rest p with
  | zero => exact absurd hpages (Nat.not_succ_le_zero _)
  | succ pages ih =>
    obtain ⟨page, hscan⟩ : ∃ page, s.scan before.length plan.limit = .ok page := by
      have hread' : ∀ r ∈ t, ∃ e, Store.read r = .ok e ∧ True := by simpa using hread
      obtain ⟨page, hscan, -⟩ := Store.exists_scan ht hread' before.length plan.limit
      exact ⟨page, hscan⟩
    obtain ⟨after, hafter⟩ := slice_zero_isPrefix plan.limit rest
    generalize hfirst : slice 0 plan.limit rest = first at hafter
    have hpage : page.map (·.item) = first.map (·.1) := by
      rw [Store.items_of_scan ht hscan, ← hitems, slice_map, hlists, slice_length_append, hfirst]
    have hlength : page.length = first.length := by simpa using congrArg List.length hpage
    subst hafter
    rw [Receiver.responses_append] at hquiet
    obtain ⟨hquiet₁, hquiet₂⟩ := List.forall_mem_append.1 hquiet
    have hanswers₁ : Answers s plan.neighbors first := fun l hl => hanswers l (by simp [hlists, hl])
    obtain ⟨p₁, hsteps, hgains⟩ := Progress.exists_steps hstore hcancelled hanswers₁ hquiet₁
    rw [← hpage] at hsteps
    rw [← hstore] at hscan
    by_cases hfull : plan.limit = some page.length
    · have hbound : plan.pageBound after.length ≤ pages := by
        rw [List.length_append, ← hlength, pageBound_of_full hfull] at hpages
        exact Nat.le_of_succ_le_succ hpages
      have hoffset : before.length + page.length = (before ++ first).length := by
        rw [List.length_append, hlength]
      rw [← List.append_assoc] at hlists
      obtain ⟨p', hrun, hgains'⟩ := ih hlists hgains.store_eq hgains.uncancelled
        (hgains.memory_eq ▸ hquiet₂) hbound
      refine ⟨p', ?_, hgains.trans hgains'⟩
      rw [Progress.pagesFrom_of_full hsteps hscan hfull, hoffset]
      exact hrun
    · -- A page that is not full has all that is left.
      have hnone : after = [] := by
        rw [hlength, ← hfirst] at hfull
        have hall := slice_zero_eq_self hfull
        rw [hfirst] at hall
        exact List.self_eq_append_right.1 hall
      refine ⟨p₁, Progress.pagesFrom_of_last hsteps hscan hfull, ?_⟩
      rw [hnone, List.append_nil]
      exact hgains

/-- Over a table that does not change and can be read, there is one sequence of lists, those of all
items in the order of their bytes, that every run hands over whose receiver takes them and leaves the
run and the store alone, whatever the size of its pages. -/
theorem exists_lists_of_unchanged (ht : s.reach = .ok t) (hn : t.Distinct)
    (hread : ∀ r ∈ t, ∃ e, Store.read r = .ok e) (n : Nat) :
    ∃ lists : List (String × List Score),
      (lists.map fun l => Text.bytes l.1).Pairwise (· < ·) ∧
      (lists.map (·.1)).Perm t.items ∧
      (∀ l ∈ lists, (s.similar l.1 n).map (·.scores) = .ok l.2) ∧
      ∀ {σ : Type} (receiver : Receiver σ) (memory : σ),
        (∀ response ∈ receiver.responses memory lists, response.Quiet s) →
        ∀ size pages, pageBound ⟨n, size⟩ t.length ≤ pages →
          ∃ p', run ⟨n, size⟩ receiver pages (.start s false memory) = (p', .completed) ∧
            p'.delivered = lists ∧ p'.summary = ⟨t.length, t.length, 0⟩ ∧ p'.store = s := by
  have hsimilar : ∀ item ∈ t.sorted.items, ∃ found, s.similar item n = .ok found := by
    intro item hitem
    exact Store.exists_similar ht hread (t.perm_items_sorted.subset hitem) n
  obtain ⟨lists, hitems, hanswers⟩ := exists_answers t.sorted.items hsimilar
  have hrising : (lists.map (·.1)).Pairwise (· < ·) := hitems ▸ Table.rising_sorted hn
  have hperm : (lists.map (·.1)).Perm t.items := hitems ▸ t.perm_items_sorted
  have hlength : lists.length = t.length := by
    simpa [Table.items] using hperm.length_eq
  refine ⟨lists, ?_, hperm, hanswers, ?_⟩
  · rw [List.pairwise_map] at hrising ⊢
    exact hrising.imp Text.bytes_lt_bytes
  · intro σ receiver memory hquiet size pages hpages
    have hlists : lists = [] ++ lists := rfl
    have hbound : pageBound ⟨n, size⟩ lists.length ≤ pages := hlength ▸ hpages
    obtain ⟨p', hrun, hgains⟩ := exists_pagesFrom (p := .start s false memory) ⟨n, size⟩ ht hread
      hitems hanswers hlists rfl rfl hquiet hbound
    refine ⟨p', hrun, hgains.delivered_eq, ?_, hgains.store_eq⟩
    rw [hgains.summary_eq, hlength]
    simp [Progress.start]

/-- A script that deletes an item that is not stored. -/
def harmless : Script := [⟨"a", [.delete "z"], none⟩]

theorem quiet_harmless (memory : Unit) (item : String) (scores : List Score) :
    (harmless.receiver memory item scores).Quiet (equalStore ["c", "a", "b"]) := by
  unfold Script.receiver harmless
  rw [List.find?_singleton]
  by_cases hitem : "a" = item
  · rw [if_pos (by simpa using hitem)]
    exact ⟨rfl, by decide, by decide +kernel⟩
  · rw [if_neg (by simpa using hitem)]
    exact ⟨rfl, by decide, rfl⟩

/-- Three items are handed over in order, though their rows are not, in pages of any size. -/
theorem exists_lists_of_unchanged_harmless :
    ∃ lists : List (String × List Score), lists.map (·.1) = ["a", "b", "c"] ∧
      ∀ size pages, pageBound ⟨1, size⟩ 3 ≤ pages →
        ∃ p', run ⟨1, size⟩ harmless.receiver pages
            (.start (equalStore ["c", "a", "b"]) false ()) = (p', .completed) ∧
          p'.delivered = lists ∧ p'.summary = ⟨3, 3, 0⟩ := by
  have ht : (equalStore ["c", "a", "b"]).reach = .ok (equalRows ["c", "a", "b"]) := rfl
  have hn : (equalRows ["c", "a", "b"]).Distinct := by
    show (equalRows ["c", "a", "b"]).items.Nodup
    decide
  have hread : ∀ r ∈ equalRows ["c", "a", "b"], ∃ e, Store.read r = .ok e := by
    intro r hr
    simp only [equalRows, List.map_cons, List.map_nil, List.mem_cons, List.not_mem_nil,
      or_false] at hr
    rcases hr with rfl | rfl | rfl
    · exact ⟨⟨"c", [.one], ⟨0, 0⟩⟩, by decide +kernel⟩
    · exact ⟨⟨"a", [.one], ⟨0, 0⟩⟩, by decide +kernel⟩
    · exact ⟨⟨"b", [.one], ⟨0, 0⟩⟩, by decide +kernel⟩
  obtain ⟨lists, hrising, hperm, -, hruns⟩ := exists_lists_of_unchanged ht hn hread 1
  refine ⟨lists, ?_, fun size pages hpages => ?_⟩
  · have hitems : (lists.map (·.1)).Perm ["a", "b", "c"] := hperm.trans (by decide)
    have hbytes : (lists.map (·.1)).Pairwise fun x y => Text.bytes x < Text.bytes y := by
      rw [List.pairwise_map] at hrising ⊢
      exact hrising
    refine hitems.eq_of_pairwise (fun x y _ _ hxy hyx => ?_) hbytes (by decide)
    exact absurd hyx (List.lt_asymm hxy)
  · obtain ⟨p', hrun, hdelivered, hsummary, -⟩ :=
      hruns harmless.receiver () (Receiver.forall_responses quiet_harmless () lists) size pages hpages
    exact ⟨p', hrun, hdelivered, hsummary⟩

end Plan

end SimilarItems.Neighbors
