import SimilarItems.Proofs.Neighbors.Turns

/-!
# Which items a run hands over

A run that reads a store page by page counts its place in rows, while its receiver may write and
delete. An item that is left alone is handed over once for every scan whose slice its position falls
into, and the items are handed over in rising order exactly if, at each scan, no more items than the
offset says are at most one that was handed over before.
-/

namespace SimilarItems.Neighbors

variable {σ : Type}

namespace Progress

/-- The items whose lists the receiver took, in order. -/
def handed (p : Progress σ) : List String := p.delivered.map (·.1)

/-- What giving the items of a page their turns does to a run that it does not stop, when the
receiver takes the given lists. -/
structure Passage (receiver : Receiver σ) (p : Progress σ) (items : List String)
    (taken : List (String × List Score)) (p' : Progress σ) : Prop where
  /-- The lists come after those that the receiver took before. -/
  delivered : p'.delivered = p.delivered ++ taken
  /-- The receiver remembers what it does after these lists. -/
  memory : p'.memory = receiver.memoryAfter p.memory taken
  /-- The lists are those of some of the items, in order. -/
  sublist : (taken.map (·.1)).Sublist items
  /-- No item is stored twice. -/
  nodup : (storedItems p.store).Nodup → (storedItems p'.store).Nodup
  /-- An item that is left alone stays stored, and its list is taken whenever its turn comes. -/
  spared : ∀ x ∈ storedItems p.store, receiver.Spares p.memory taken x →
    x ∈ storedItems p'.store ∧ (taken.map (·.1)).count x = items.count x
  /-- The first item has no time to vanish. -/
  first : ∀ item ∈ items.head?, item ∈ storedItems p.store → item ∈ taken.map (·.1)

theorem Passage.nil (receiver : Receiver σ) (p : Progress σ) : Passage receiver p [] [] p where
  delivered := (List.append_nil _).symm
  memory := rfl
  sublist := .slnil
  nodup h := h
  spared _ hx _ := ⟨hx, rfl⟩
  first _ h := by cases h

theorem Passage.vanished {receiver : Receiver σ} {p p' : Progress σ} {item : String}
    {items : List String} {taken : List (String × List Score)}
    (hitem : item ∉ storedItems p.store)
    (h : Passage receiver p.visit.vanish items taken p') :
    Passage receiver p (item :: items) taken p' where
  delivered := h.delivered
  memory := h.memory
  sublist := h.sublist.cons item
  nodup := h.nodup
  spared x hx hspares := by
    obtain ⟨hx', hcount⟩ := h.spared x hx hspares
    have hne : item ≠ x := fun heq => hitem (heq ▸ hx)
    exact ⟨hx', by rw [hcount, List.count_cons_of_ne hne]⟩
  first i hi hstored := by
    rw [List.head?_cons, Option.mem_some_iff] at hi
    exact absurd (hi ▸ hstored) hitem

theorem Passage.handed {receiver : Receiver σ} {p p₁ p' : Progress σ} {item : String}
    {scores : List Score} {items : List String} {taken : List (String × List Score)}
    (hdelivered : p₁.delivered = p.delivered ++ [(item, scores)])
    (hmemory : p₁.memory = (receiver p.memory item scores).memory)
    (hnodup : (storedItems p.store).Nodup → (storedItems p₁.store).Nodup)
    (hspared : ∀ x ∈ storedItems p.store,
      (∀ a ∈ (receiver p.memory item scores).actions, a.target? ≠ some x) →
        x ∈ storedItems p₁.store)
    (h : Passage receiver p₁ items taken p') :
    Passage receiver p (item :: items) ((item, scores) :: taken) p' where
  delivered := by rw [h.delivered, hdelivered, List.append_assoc, List.singleton_append]
  memory := by rw [h.memory, hmemory]; rfl
  sublist := by simpa using h.sublist
  nodup hn := h.nodup (hnodup hn)
  spared x hx hspares := by
    obtain ⟨hactions, hrest⟩ := Receiver.spares_cons.1 hspares
    obtain ⟨hx', hcount⟩ := h.spared x (hspared x hx hactions) (hmemory ▸ hrest)
    exact ⟨hx', by rw [List.map_cons, List.count_cons, hcount, List.count_cons]⟩
  first i hi _ := by
    rw [List.head?_cons, Option.mem_some_iff] at hi
    simp [hi]

theorem exists_passage {receiver : Receiver σ} {n : Nat} {p p' : Progress σ} {items : List String}
    (h : steps receiver n p items = (p', none)) : ∃ taken, Passage receiver p items taken p' := by
  induction items generalizing p with
  | nil =>
    cases h
    exact ⟨[], .nil receiver _⟩
  | cons item items ih =>
    rw [steps] at h
    split at h
    · cases h
    · rename_i p₁ hstep
      obtain ⟨taken, hpassage⟩ := ih h
      cases turn_of_step hstep with
      | vanished hgoing hsimilar =>
        exact ⟨taken, hpassage.vanished (notMem_storedItems_of_similar hsimilar)⟩
      | taken found hgoing hsimilar hrefusal =>
        refine ⟨(item, found.scores) :: taken, .handed ?_ ?_ ?_ ?_ hpassage⟩
        · rw [deliver, respond, acts_eq]
          rfl
        · rw [deliver, respond, acts_eq]
        · intro hn
          refine nodup_acts ?_ _
          exact hn
        · intro x hx hactions
          refine mem_storedItems_acts ?_ hactions
          exact hx

/-! ## Scans -/

end Progress

/-- A scan of a run. -/
structure Scan (σ : Type) where
  /-- The offset. -/
  offset : Nat
  /-- The run at the moment of the scan. -/
  progress : Progress σ

namespace Scan

/-- The number of stored items that are below an item. -/
def below (s : Scan σ) (x : String) : Nat := (storedItems s.progress.store).countP (· < x)

/-- The number of stored items that are at most an item. -/
def atMost (s : Scan σ) (x : String) : Nat := (storedItems s.progress.store).countP (· ≤ x)

/-- Whether the position of an item falls into the slice that is scanned. -/
def covers (limit : Option Nat) (s : Scan σ) (x : String) : Bool :=
  s.offset ≤ s.below x && limit.all fun n => s.below x < s.offset + n

end Scan

namespace Progress

/-- The scans of a run through at most `pages` pages of at most `limit` items from an offset on. -/
def scansFrom (receiver : Receiver σ) (n : Nat) (limit : Option Nat) :
    Nat → Nat → Progress σ → List (Scan σ)
  | 0, _, _ => []
  | pages + 1, offset, p =>
    ⟨offset, p⟩ ::
      match p.store.scan offset limit with
      | .error _ => []
      | .ok page =>
        match steps receiver n p (page.map (·.item)) with
        | (_, some _) => []
        | (p, none) =>
          if limit = some page.length then
            scansFrom receiver n limit pages (offset + page.length) p
          else []

/-- What comes of a scan: how the run ends, and the scans that follow. -/
inductive Onward (receiver : Receiver σ) (n : Nat) (limit : Option Nat) (pages : Nat)
    (scan : Scan σ) : Progress σ → Ending → List (Scan σ) → Prop where
  | unread (e : StoreError) (hscan : scan.progress.store.scan scan.offset limit = .error e) :
      Onward receiver n limit pages scan scan.progress (.stopped (.store e)) []
  | stopped {page : List Embedding} {p' : Progress σ} (e : RunError)
      (hscan : scan.progress.store.scan scan.offset limit = .ok page)
      (hsteps : steps receiver n scan.progress (page.map (·.item)) = (p', some e)) :
      Onward receiver n limit pages scan p' (.stopped e) []
  | last {page : List Embedding} {p' : Progress σ}
      (hscan : scan.progress.store.scan scan.offset limit = .ok page)
      (hsteps : steps receiver n scan.progress (page.map (·.item)) = (p', none))
      (hlast : limit ≠ some page.length) :
      Onward receiver n limit pages scan p' .completed []
  | full {page : List Embedding} {p₁ p' : Progress σ} {ending : Ending}
      (hscan : scan.progress.store.scan scan.offset limit = .ok page)
      (hsteps : steps receiver n scan.progress (page.map (·.item)) = (p₁, none))
      (hfull : limit = some page.length)
      (hrest : pagesFrom receiver n limit pages (scan.offset + page.length) p₁ = (p', ending)) :
      Onward receiver n limit pages scan p' ending
        (scansFrom receiver n limit pages (scan.offset + page.length) p₁)

/-- A run that may read a page scans it and goes on from there. -/
theorem exists_onward {receiver : Receiver σ} {n : Nat} {limit : Option Nat} {pages offset : Nat}
    {p p' : Progress σ} {ending : Ending}
    (h : pagesFrom receiver n limit (pages + 1) offset p = (p', ending)) :
    ∃ scans, scansFrom receiver n limit (pages + 1) offset p = ⟨offset, p⟩ :: scans ∧
      Onward receiver n limit pages ⟨offset, p⟩ p' ending scans := by
  rw [pagesFrom] at h
  rw [scansFrom]
  cases hscan : p.store.scan offset limit with
  | error e =>
    rw [hscan] at h
    cases h
    exact ⟨_, rfl, .unread e hscan⟩
  | ok page =>
    simp only [hscan] at h ⊢
    cases hsteps : steps receiver n p (page.map (·.item)) with
    | mk p₁ stop =>
      simp only [hsteps] at h ⊢
      cases stop with
      | some e =>
        cases h
        exact ⟨_, rfl, .stopped e hscan hsteps⟩
      | none =>
        by_cases hfull : limit = some page.length
        · simp only [if_pos hfull] at h ⊢
          exact ⟨_, rfl, .full hscan hsteps hfull h⟩
        · simp only [if_neg hfull] at h ⊢
          cases h
          exact ⟨_, rfl, .last hscan hsteps hfull⟩

/-- A completed run goes through a page, and then it is at its end or completes the rest. -/
theorem pagesFrom_completed {receiver : Receiver σ} {n : Nat} {limit : Option Nat}
    {pages offset : Nat} {p p' : Progress σ}
    (h : pagesFrom receiver n limit (pages + 1) offset p = (p', .completed)) :
    ∃ page taken p₁, p.store.scan offset limit = .ok page ∧
      Passage receiver p (page.map (·.item)) taken p₁ ∧
      ((p' = p₁ ∧ scansFrom receiver n limit (pages + 1) offset p = [⟨offset, p⟩]) ∨
        (pagesFrom receiver n limit pages (offset + page.length) p₁ = (p', .completed) ∧
          scansFrom receiver n limit (pages + 1) offset p =
            ⟨offset, p⟩ :: scansFrom receiver n limit pages (offset + page.length) p₁)) := by
  obtain ⟨scans, hscans, honward⟩ := exists_onward h
  cases honward with
  | last hscan hsteps hlast =>
    obtain ⟨taken, hpassage⟩ := exists_passage hsteps
    exact ⟨_, taken, p', hscan, hpassage, .inl ⟨rfl, hscans⟩⟩
  | full hscan hsteps hfull hrest =>
    obtain ⟨taken, hpassage⟩ := exists_passage hsteps
    exact ⟨_, taken, _, hscan, hpassage, .inr ⟨hrest, hscans⟩⟩

theorem pagesFrom_of_full {receiver : Receiver σ} {n pages offset : Nat} {limit : Option Nat}
    {p p' : Progress σ} {page : List Embedding}
    (hsteps : steps receiver n p (page.map (·.item)) = (p', none))
    (hscan : p.store.scan offset limit = .ok page) (hfull : limit = some page.length) :
    pagesFrom receiver n limit (pages + 1) offset p =
      pagesFrom receiver n limit pages (offset + page.length) p' := by
  rw [pagesFrom, hscan]
  simp only [hsteps, if_pos hfull]

theorem pagesFrom_of_stop {receiver : Receiver σ} {n pages offset : Nat} {limit : Option Nat}
    {p p' : Progress σ} {page : List Embedding} {e : RunError}
    (hsteps : steps receiver n p (page.map (·.item)) = (p', some e))
    (hscan : p.store.scan offset limit = .ok page) :
    pagesFrom receiver n limit (pages + 1) offset p = (p', .stopped e) := by
  rw [pagesFrom, hscan]
  simp only [hsteps]

theorem pagesFrom_of_last {receiver : Receiver σ} {n pages offset : Nat} {limit : Option Nat}
    {p p' : Progress σ} {page : List Embedding}
    (hsteps : steps receiver n p (page.map (·.item)) = (p', none))
    (hscan : p.store.scan offset limit = .ok page) (hlast : limit ≠ some page.length) :
    pagesFrom receiver n limit (pages + 1) offset p = (p', .completed) := by
  rw [pagesFrom, hscan]
  simp only [hsteps, if_neg hlast]

/-- The items of a page are a slice of the stored items by rising order. -/
theorem exists_rising_of_scan {p : Progress σ} {offset : Nat} {limit : Option Nat}
    {page : List Embedding} (hn : (storedItems p.store).Nodup)
    (h : p.store.scan offset limit = .ok page) :
    ∃ l, l.Perm (storedItems p.store) ∧ l.Pairwise (· < ·) ∧
      page.map (·.item) = slice offset limit l := by
  obtain ⟨t, ht, -⟩ := Store.scan_eq_ok.1 h
  rw [storedItems_of_reach ht] at hn ⊢
  exact ⟨t.sorted.items, t.perm_items_sorted, Table.rising_sorted hn, Store.items_of_scan ht h⟩

section Page

variable {receiver : Receiver σ} {limit : Option Nat} {offset : Nat} {p p₁ : Progress σ}
  {page : List Embedding} {taken : List (String × List Score)}

/-- An item that is left alone is handed over in a page exactly if the scan covers it. -/
theorem count_taken (hn : (storedItems p.store).Nodup)
    (hscan : p.store.scan offset limit = .ok page)
    (hpassage : Passage receiver p (page.map (·.item)) taken p₁) {x : String}
    (hx : x ∈ storedItems p.store) (hspares : receiver.Spares p.memory taken x) :
    (taken.map (·.1)).count x = if Scan.covers limit ⟨offset, p⟩ x then 1 else 0 := by
  obtain ⟨l, hperm, hrising, hpage⟩ := exists_rising_of_scan hn hscan
  have hnodup : (slice offset limit l).Nodup :=
    (hperm.nodup_iff.2 hn).sublist (sublist_slice offset limit l)
  have hmem : x ∈ slice offset limit l ↔ Scan.covers limit ⟨offset, p⟩ x := by
    rw [mem_slice_iff_countP hrising, hperm.countP_eq, hperm.mem_iff, Scan.covers, Scan.below,
      Bool.and_eq_true, decide_eq_true_iff, and_iff_right hx]
    cases limit with
    | none => simp only [Option.mem_def, reduceCtorEq, false_implies, implies_true, Option.all_none]
    | some n => simp only [Option.mem_some_iff, forall_eq', Option.all_some, decide_eq_true_iff]
  rw [(hpassage.spared x hx hspares).2, hpage]
  by_cases h : x ∈ slice offset limit l
  · rw [List.count_eq_one_of_mem hnodup h, if_pos (hmem.1 h)]
  · rw [List.count_eq_zero_of_not_mem h, if_neg fun hc => h (hmem.2 hc)]

/-- A page keeps the order in which items are handed over exactly if no more stored items than the
offset says are at most one that was handed over before. -/
theorem rising_passage_iff (hlimit : limit ≠ some 0) (hn : (storedItems p.store).Nodup)
    (hscan : p.store.scan offset limit = .ok page)
    (hpassage : Passage receiver p (page.map (·.item)) taken p₁)
    (hp : p.handed.Pairwise (· < ·)) :
    p₁.handed.Pairwise (· < ·) ↔
      ∀ y ∈ p.handed, Scan.atMost (⟨offset, p⟩ : Scan σ) y ≤ offset := by
  obtain ⟨l, hperm, hrising, hpage⟩ := exists_rising_of_scan hn hscan
  have hslice : (slice offset limit l).Pairwise (· < ·) :=
    hrising.sublist (sublist_slice offset limit l)
  have hsublist : (taken.map (·.1)).Sublist (slice offset limit l) := hpage ▸ hpassage.sublist
  have hhanded : p₁.handed = p.handed ++ taken.map (·.1) := by
    rw [handed, hpassage.delivered, List.map_append]
    rfl
  rw [hhanded, List.pairwise_append]
  have hcross : ∀ y, (∀ z ∈ taken.map (·.1), y < z) ↔
      Scan.atMost (⟨offset, p⟩ : Scan σ) y ≤ offset := by
    intro y
    rw [Scan.atMost, ← hperm.countP_eq, ← forall_mem_slice_lt_iff hrising hlimit]
    refine ⟨fun h z hz => ?_, fun h z hz => h z (hsublist.subset hz)⟩
    -- The first item of the page is always handed over, and all others are above it.
    cases hslices : slice offset limit l with
    | nil =>
      rw [hslices] at hz
      cases hz
    | cons a rest =>
      have hfirst : a ∈ (page.map (·.item)).head? := by rw [hpage, hslices]; rfl
      have hstored : a ∈ storedItems p.store := by
        refine hperm.subset ((sublist_slice offset limit l).subset ?_)
        rw [hslices]
        exact List.mem_cons_self
      have ha : y < a := h a (hpassage.first a hfirst hstored)
      rw [hslices] at hz hslice
      rcases List.mem_cons.1 hz with rfl | hz
      · exact ha
      · exact ha.trans ((List.pairwise_cons.1 hslice).1 z hz)
  constructor
  · intro h y hy
    exact (hcross y).1 fun z hz => h.2.2 y hy z hz
  · intro h
    exact ⟨hp, hslice.sublist hsublist, fun y hy => (hcross y).2 (h y hy)⟩

end Page

section Run

variable {receiver : Receiver σ} {n : Nat} {limit : Option Nat} {pages offset : Nat}
  {p p' : Progress σ}

/-- A completed run hands over an item that is left alone once for every scan that covers it. -/
theorem count_of_completed (hn : (storedItems p.store).Nodup)
    (h : pagesFrom receiver n limit pages offset p = (p', .completed)) :
    ∃ taken, p'.delivered = p.delivered ++ taken ∧
      ∀ x ∈ storedItems p.store, receiver.Spares p.memory taken x →
        (taken.map (·.1)).count x =
          (scansFrom receiver n limit pages offset p).countP (·.covers limit x) := by
  induction pages generalizing offset p with
  | zero => cases h
  | succ pages ih =>
    obtain ⟨page, taken, p₁, hscan, hpassage, hrest⟩ := pagesFrom_completed h
    rcases hrest with ⟨rfl, hscans⟩ | ⟨hpages, hscans⟩
    · refine ⟨taken, hpassage.delivered, fun x hx hspares => ?_⟩
      rw [hscans, List.countP_singleton, count_taken hn hscan hpassage hx hspares]
    · obtain ⟨taken', hdelivered, hcount⟩ := ih (hpassage.nodup hn) hpages
      refine ⟨taken ++ taken', ?_, fun x hx hspares => ?_⟩
      · rw [hdelivered, hpassage.delivered, List.append_assoc]
      · obtain ⟨hspares, hspares'⟩ := Receiver.spares_append.1 hspares
        have hx₁ := (hpassage.spared x hx hspares).1
        rw [List.map_append, List.count_append, count_taken hn hscan hpassage hx hspares,
          hcount x hx₁ (hpassage.memory ▸ hspares'), hscans, List.countP_cons, Nat.add_comm]

/-- A completed run hands items over in rising order exactly if, at each scan, no more stored items
than the offset says are at most one that was handed over before. -/
theorem rising_of_completed_iff (hlimit : limit ≠ some 0) (hn : (storedItems p.store).Nodup)
    (hp : p.handed.Pairwise (· < ·))
    (h : pagesFrom receiver n limit pages offset p = (p', .completed)) :
    p'.handed.Pairwise (· < ·) ↔ ∀ scan ∈ scansFrom receiver n limit pages offset p,
      ∀ y ∈ scan.progress.handed, scan.atMost y ≤ scan.offset := by
  induction pages generalizing offset p with
  | zero => cases h
  | succ pages ih =>
    obtain ⟨page, taken, p₁, hscan, hpassage, hrest⟩ := pagesFrom_completed h
    have hiff := rising_passage_iff hlimit hn hscan hpassage hp
    rcases hrest with ⟨rfl, hscans⟩ | ⟨hpages, hscans⟩
    · rw [hscans, List.forall_mem_singleton]
      exact hiff
    · obtain ⟨taken', hdelivered, -⟩ := count_of_completed (hpassage.nodup hn) hpages
      have hsublist : p₁.handed.Sublist p'.handed := by
        rw [handed, handed, hdelivered, List.map_append]
        exact List.sublist_append_left _ _
      rw [hscans, List.forall_mem_cons]
      constructor
      · intro hp'
        have hp₁ := hp'.sublist hsublist
        exact ⟨hiff.1 hp₁, (ih (hpassage.nodup hn) hp₁ hpages).1 hp'⟩
      · rintro ⟨hfirst, hlater⟩
        exact (ih (hpassage.nodup hn) (hiff.2 hfirst) hpages).2 hlater

end Run

theorem scansFrom_none (receiver : Receiver σ) (n pages offset : Nat) (p : Progress σ) :
    scansFrom receiver n none (pages + 1) offset p = [⟨offset, p⟩] := by
  rw [scansFrom]
  split
  · rfl
  · split
    · rfl
    · rw [if_neg (by simp)]

end Progress

/-- Every item that was stored at the start of a run and then left alone was handed over once, and
all items were handed over in rising order. -/
structure Faithful (receiver : Receiver σ) (p p' : Progress σ) : Prop where
  once : ∀ x ∈ storedItems p.store, receiver.Spares p.memory p'.delivered x →
    p'.handed.count x = 1
  rising : p'.handed.Pairwise (· < ·)

/-- Every item that was stored at the start of a run and then left alone was covered by one of the
scans, and at each scan no more stored items than the offset says are at most one that was handed
over before. -/
structure Aligned (receiver : Receiver σ) (limit : Option Nat) (p p' : Progress σ)
    (scans : List (Scan σ)) : Prop where
  once : ∀ x ∈ storedItems p.store, receiver.Spares p.memory p'.delivered x →
    scans.countP (·.covers limit x) = 1
  rising : ∀ scan ∈ scans, ∀ y ∈ scan.progress.handed, scan.atMost y ≤ scan.offset

namespace Plan

/-- The scans of a run through a store. -/
def scans (plan : Plan) (receiver : Receiver σ) (pages : Nat) (start : Progress σ) :
    List (Scan σ) :=
  Progress.scansFrom receiver plan.neighbors plan.limit pages 0 start

theorem limit_ne_zero (plan : Plan) : plan.limit ≠ some 0 := by
  rw [limit]
  split
  · simp
  · simpa using ‹plan.pageSize ≠ 0›

/-- A completed run is faithful exactly if its scans are aligned, and one scan that reads all is. -/
theorem faithful_iff_aligned {plan : Plan} {receiver : Receiver σ} {pages : Nat} {store : Store}
    {cancelled : Bool} {memory : σ} {p' : Progress σ} (hn : (storedItems store).Nodup)
    (h : plan.run receiver pages (.start store cancelled memory) = (p', .completed)) :
    (Faithful receiver (.start store cancelled memory) p' ↔
      Aligned receiver plan.limit (.start store cancelled memory) p'
        (plan.scans receiver pages (.start store cancelled memory))) ∧
    (plan.pageSize = 0 → Faithful receiver (.start store cancelled memory) p') := by
  obtain ⟨taken, hdelivered, hcount⟩ := Progress.count_of_completed hn h
  have hrising := Progress.rising_of_completed_iff plan.limit_ne_zero hn .nil h
  have htaken : p'.delivered = taken := hdelivered
  have hiff : Faithful receiver (.start store cancelled memory) p' ↔
      Aligned receiver plan.limit (.start store cancelled memory) p'
        (plan.scans receiver pages (.start store cancelled memory)) := by
    constructor
    · intro hf
      refine ⟨fun x hx hspares => ?_, hrising.1 hf.rising⟩
      rw [scans, ← hcount x hx (htaken ▸ hspares), ← htaken]
      exact hf.once x hx hspares
    · intro ha
      refine ⟨fun x hx hspares => ?_, hrising.2 ha.rising⟩
      rw [Progress.handed, htaken, hcount x hx (htaken ▸ hspares)]
      exact ha.once x hx hspares
  refine ⟨hiff, fun hsize => hiff.2 ?_⟩
  obtain ⟨pages, rfl⟩ : ∃ k, pages = k + 1 := by
    cases pages with
    | zero => cases h
    | succ pages => exact ⟨pages, rfl⟩
  have hlimit : plan.limit = none := by rw [limit, if_pos hsize]
  have hscans : plan.scans receiver (pages + 1) (.start store cancelled memory) =
      [⟨0, .start store cancelled memory⟩] := by
    rw [scans, hlimit, Progress.scansFrom_none]
  rw [hscans, hlimit]
  refine ⟨fun x _ _ => ?_, ?_⟩
  · simp [Scan.covers]
  · rw [List.forall_mem_singleton]
    intro y hy
    cases hy

/-- A table of given items with equal embeddings. -/
def equalRows (items : List String) : Table :=
  items.map fun item => ⟨item, "[1.0]", "1970-01-01T00:00:00+00:00"⟩

/-- A store of given items with equal embeddings. -/
def equalStore (items : List String) : Store := (Store.empty none).withTable (equalRows items)

/-- What a run knows that has handed over given items, each with the neighbor that it found. -/
def handedOver (items : List String) (visited : Nat) (delivered : List (String × String)) :
    Progress Unit :=
  ⟨equalStore items, false, (), ⟨visited, delivered.length, 0⟩,
    delivered.map fun d => (d.1, [⟨d.2, .one⟩]), []⟩

/-- A script that deletes the item `a` as soon as it is handed over. -/
def forgetful : Script := [⟨"a", [.delete "a"], none⟩]

theorem scan_equalStore {items : List String} (h : items.Pairwise (· < ·)) (offset : Nat)
    (limit : Option Nat) : (equalStore items).scan offset limit =
      (slice offset limit (equalRows items)).mapM Store.read := by
  refine Store.scan_of_rising rfl ?_ offset limit
  have hitems : (equalRows items).items = items := by
    rw [equalRows, Table.items, List.map_map]
    exact List.map_id' items
  rwa [hitems]

/-- The embeddings of given items with equal embeddings. -/
def equalPage (items : List String) : List Embedding :=
  items.map fun item => ⟨item, [.one], ⟨0, 0⟩⟩

theorem run_forgetful_one_page :
    run ⟨1, 0⟩ forgetful.receiver 1 (.start (equalStore ["a", "b", "c"]) false ()) =
      (handedOver ["b", "c"] 3 [("a", "b"), ("b", "c"), ("c", "b")], .completed) := by
  have hscan : (equalStore ["a", "b", "c"]).scan 0 none = .ok (equalPage ["a", "b", "c"]) := by
    rw [scan_equalStore (by decide)]
    decide +kernel
  have hsteps : Progress.steps forgetful.receiver 1
      (.start (equalStore ["a", "b", "c"]) false ()) ((equalPage ["a", "b", "c"]).map (·.item)) =
        (handedOver ["b", "c"] 3 [("a", "b"), ("b", "c"), ("c", "b")], none) := by
    decide +kernel
  exact Progress.pagesFrom_of_last hsteps hscan (by decide)

theorem run_forgetful_three_pages :
    run ⟨1, 1⟩ forgetful.receiver 3 (.start (equalStore ["a", "b", "c"]) false ()) =
      (handedOver ["b", "c"] 2 [("a", "b"), ("c", "b")], .completed) := by
  have hscan₁ : (equalStore ["a", "b", "c"]).scan 0 (some 1) = .ok (equalPage ["a"]) := by
    rw [scan_equalStore (by decide)]
    decide +kernel
  have hsteps₁ : Progress.steps forgetful.receiver 1
      (.start (equalStore ["a", "b", "c"]) false ()) ((equalPage ["a"]).map (·.item)) =
        (handedOver ["b", "c"] 1 [("a", "b")], none) := by
    decide +kernel
  have hscan₂ : (equalStore ["b", "c"]).scan 1 (some 1) = .ok (equalPage ["c"]) := by
    rw [scan_equalStore (by decide)]
    decide +kernel
  have hsteps₂ : Progress.steps forgetful.receiver 1 (handedOver ["b", "c"] 1 [("a", "b")])
      ((equalPage ["c"]).map (·.item)) =
        (handedOver ["b", "c"] 2 [("a", "b"), ("c", "b")], none) := by
    decide +kernel
  have hscan₃ : (equalStore ["b", "c"]).scan 2 (some 1) = .ok (equalPage []) := by
    rw [scan_equalStore (by decide)]
    rfl
  have hsteps₃ : Progress.steps forgetful.receiver 1
      (handedOver ["b", "c"] 2 [("a", "b"), ("c", "b")]) ((equalPage []).map (·.item)) =
        (handedOver ["b", "c"] 2 [("a", "b"), ("c", "b")], none) := rfl
  calc Progress.pagesFrom forgetful.receiver 1 (some 1) 3 0
        (.start (equalStore ["a", "b", "c"]) false ())
      = Progress.pagesFrom forgetful.receiver 1 (some 1) 2 1
          (handedOver ["b", "c"] 1 [("a", "b")]) :=
        Progress.pagesFrom_of_full hsteps₁ hscan₁ rfl
    _ = Progress.pagesFrom forgetful.receiver 1 (some 1) 1 2
          (handedOver ["b", "c"] 2 [("a", "b"), ("c", "b")]) :=
        Progress.pagesFrom_of_full hsteps₂ hscan₂ rfl
    _ = (handedOver ["b", "c"] 2 [("a", "b"), ("c", "b")], .completed) :=
        Progress.pagesFrom_of_last hsteps₃ hscan₃ (by decide)

/-- Read in one page, all of three items are handed over, though the first is deleted meanwhile. -/
theorem faithful_forgetful :
    (storedItems (equalStore ["a", "b", "c"])).Nodup ∧
    run ⟨1, 0⟩ forgetful.receiver 1 (.start (equalStore ["a", "b", "c"]) false ()) =
      (handedOver ["b", "c"] 3 [("a", "b"), ("b", "c"), ("c", "b")], .completed) ∧
    Faithful forgetful.receiver (.start (equalStore ["a", "b", "c"]) false ())
      (handedOver ["b", "c"] 3 [("a", "b"), ("b", "c"), ("c", "b")]) := by
  have hn : (storedItems (equalStore ["a", "b", "c"])).Nodup := by decide
  exact ⟨hn, run_forgetful_one_page, (faithful_iff_aligned hn run_forgetful_one_page).2 rfl⟩

/-- Read in pages of one item, the second is passed over, because the deletion of the first moves it
to a place that was read before. -/
theorem not_faithful_forgetful :
    ¬ ∀ (plan : Plan) (receiver : Receiver Unit) (pages : Nat) (store : Store)
      (p' : Progress Unit), (storedItems store).Nodup →
      plan.run receiver pages (.start store false ()) = (p', .completed) →
        Faithful receiver (.start store false ()) p' := by
  intro h
  have hn : (storedItems (equalStore ["a", "b", "c"])).Nodup := by decide
  have honce := (h _ _ _ _ _ hn run_forgetful_three_pages).once "b" (by decide) (by decide)
  revert honce
  decide

end Plan

end SimilarItems.Neighbors
