import SimilarItems.Proofs.Neighbors.Accounts
import SimilarItems.Proofs.Neighbors.Scans

/-!
# The books of a run

A run is a sequence of turns, each of which finds the run as the turns before have left it. What the
run has counted, what it has handed to its receiver and why it ended can be read off these turns,
whatever the receiver does to the store meanwhile.
-/

namespace SimilarItems.Neighbors

variable {σ : Type}

/-! ## Runs as sequences of turns -/

/-- From one progress a run comes to another through turns, of which only the last can stop it. -/
inductive Ran (receiver : Receiver σ) (n : Nat) (p₀ : Progress σ) :
    List (Visit σ) → Progress σ → Option RunError → Prop where
  | start : Ran receiver n p₀ [] p₀ none
  | turn {visits : List (Visit σ)} (v : Visit σ) {p' : Progress σ} {stop : Option RunError}
      (h : Ran receiver n p₀ visits v.progress none)
      (hturn : Progress.Turn receiver n v.progress v.item p' stop) :
      Ran receiver n p₀ (visits ++ [v]) p' stop

theorem goesOn_of_turn {receiver : Receiver σ} {n : Nat} {v : Visit σ} {p' : Progress σ}
    (h : Progress.Turn receiver n v.progress v.item p' none) : (v.outcome receiver n).GoesOn := by
  cases h with
  | vanished hgoing hsimilar => exact .inl (Visit.outcome_of_notFound receiver hgoing hsimilar)
  | taken found hgoing hsimilar hrefusal =>
    exact .inr ⟨_, Visit.outcome_of_taken hgoing hsimilar hrefusal⟩

namespace Ran

variable {receiver : Receiver σ} {n : Nat} {p₀ p : Progress σ} {visits : List (Visit σ)}
  {stop : Option RunError}

theorem account {s : Store} {cancelled : Bool} {memory : σ}
    (h : Ran receiver n (.start s cancelled memory) visits p stop) :
    Account receiver n s cancelled memory visits p := by
  induction h with
  | start => exact account_start
  | turn v h hturn ih => exact ih.append hturn

theorem exists_reach (h : Ran receiver n p₀ visits p stop) (hreach : ∃ t, p₀.store.reach = .ok t) :
    ∃ t, p.store.reach = .ok t := by
  induction h with
  | start => exact hreach
  | turn v h hturn ih =>
    cases hturn with
    | cancelled | vanished | failed => exact ih
    | taken | refused => exact Progress.exists_reach_respond ih

theorem goesOn (h : Ran receiver n p₀ visits p stop) (hstop : stop = none) :
    ∀ v ∈ visits, (v.outcome receiver n).GoesOn := by
  induction h with
  | start =>
    intro v hv
    cases hv
  | turn v h hturn ih =>
    subst hstop
    intro w hw
    rcases List.mem_append.1 hw with hw | hw
    · exact ih rfl w hw
    · rw [List.mem_singleton] at hw
      rw [hw]
      exact goesOn_of_turn hturn

/-- A turn finds the run as the turns before have left it, and they have all gone on. -/
theorem before (h : Ran receiver n p₀ visits p stop) {before after : List (Visit σ)} {v : Visit σ}
    (hsplit : visits = before ++ v :: after) : Ran receiver n p₀ before v.progress none := by
  induction h generalizing after with
  | start => cases before <;> cases hsplit
  | turn w h hturn ih =>
    rcases append_singleton_eq_append_cons.1 hsplit with ⟨rfl, rfl, -⟩ | ⟨after', -, hsplit'⟩
    · exact h
    · exact ih hsplit'

/-- If something stops a run, it does so in its last turn. -/
theorem exists_last {error : RunError} (h : Ran receiver n p₀ visits p (some error)) :
    ∃ before v, visits = before ++ [v] ∧ Ran receiver n p₀ before v.progress none ∧
      Progress.Turn receiver n v.progress v.item p (some error) := by
  cases h with
  | turn v h hturn => exact ⟨_, v, rfl, h, hturn⟩

end Ran

/-- Turns are given to items in order, and to all of them unless something stops the run. -/
structure Covers (visits : List (Visit σ)) (items : List String) (stop : Option RunError) :
    Prop where
  initial : visits.map (·.item) <+: items
  all_of_none : stop = none → visits.map (·.item) = items

theorem Covers.nil (stop : Option RunError) : Covers ([] : List (Visit σ)) [] stop :=
  ⟨List.prefix_rfl, fun _ => rfl⟩

theorem Covers.append {visits more : List (Visit σ)} {items others : List String}
    {stop : Option RunError} (h : Covers visits items none) (hmore : Covers more others stop) :
    Covers (visits ++ more) (items ++ others) stop := by
  constructor
  · rw [List.map_append, h.all_of_none rfl]
    exact (List.prefix_append_right_inj items).2 hmore.initial
  · intro hstop
    rw [List.map_append, h.all_of_none rfl, hmore.all_of_none hstop]

namespace Progress

/-- The turns of the items of a page. -/
def visits (receiver : Receiver σ) (n : Nat) (p : Progress σ) : List String → List (Visit σ)
  | [] => []
  | item :: items =>
    ⟨item, p⟩ ::
      match step receiver n p item with
      | (_, some _) => []
      | (p, none) => visits receiver n p items

theorem ran_steps {receiver : Receiver σ} {n : Nat} {p₀ p p' : Progress σ}
    {before : List (Visit σ)} {items : List String} {stop : Option RunError}
    (h : Ran receiver n p₀ before p none) (hsteps : steps receiver n p items = (p', stop)) :
    Ran receiver n p₀ (before ++ visits receiver n p items) p' stop ∧
      Covers (visits receiver n p items) items stop := by
  induction items generalizing p before with
  | nil =>
    cases hsteps
    rw [visits, List.append_nil]
    exact ⟨h, .nil _⟩
  | cons item items ih =>
    rw [steps] at hsteps
    rw [visits]
    cases hstep : step receiver n p item with
    | mk p₁ stop₁ =>
      have hran : Ran receiver n p₀ (before ++ [⟨item, p⟩]) p₁ stop₁ :=
        .turn ⟨item, p⟩ h (turn_of_step hstep)
      simp only [hstep] at hsteps ⊢
      cases stop₁ with
      | some e =>
        cases hsteps
        exact ⟨hran, ⟨items, rfl⟩, fun hstop => by cases hstop⟩
      | none =>
        obtain ⟨hran', hcovers⟩ := ih hran hsteps
        rw [List.append_assoc, List.singleton_append] at hran'
        have hitem : Covers [Visit.mk item p] [item] none := ⟨List.prefix_rfl, fun _ => rfl⟩
        exact ⟨hran', hitem.append hcovers⟩

end Progress

namespace Scan

/-- The items of the page that a scan reads, if it can be read. -/
def items (limit : Option Nat) (scan : Scan σ) : List String :=
  ((scan.progress.store.scan scan.offset limit).toOption.getD []).map (·.item)

/-- The turns of the items of the page that a scan reads. -/
def visits (receiver : Receiver σ) (n : Nat) (limit : Option Nat) (scan : Scan σ) :
    List (Visit σ) :=
  scan.progress.visits receiver n (scan.items limit)

theorem items_of_ok {limit : Option Nat} {scan : Scan σ} {page : List Embedding}
    (h : scan.progress.store.scan scan.offset limit = .ok page) :
    scan.items limit = page.map (·.item) := by
  rw [items, h]
  rfl

end Scan

/-- How a run ends that a turn has stopped, or none has. -/
inductive Closes : Option RunError → Ending → Prop where
  | stopped (e : RunError) : Closes (some e) (.stopped e)
  /-- A page could not be read. -/
  | unread (e : StoreError) : Closes none (.stopped (.store e))
  | completed : Closes none .completed
  | unfinished : Closes none .unfinished

/-- A run gives turns to the items of its pages. -/
theorem Progress.ran_pagesFrom {receiver : Receiver σ} {n : Nat} {limit : Option Nat}
    {pages offset : Nat} {p₀ p p' : Progress σ} {before : List (Visit σ)} {ending : Ending}
    {scans : List (Scan σ)} (h : Ran receiver n p₀ before p none)
    (hscans : scansFrom receiver n limit pages offset p = scans)
    (hpages : pagesFrom receiver n limit pages offset p = (p', ending)) :
    ∃ stop, Closes stop ending ∧
      Ran receiver n p₀ (before ++ scans.flatMap (Scan.visits receiver n limit)) p' stop ∧
      Covers (scans.flatMap (Scan.visits receiver n limit)) (scans.flatMap (Scan.items limit))
        stop := by
  induction pages generalizing offset p before scans with
  | zero =>
    cases hpages
    subst hscans
    refine ⟨none, .unfinished, ?_, .nil _⟩
    rw [scansFrom, List.flatMap_nil, List.append_nil]
    exact h
  | succ pages ih =>
    obtain ⟨later, hlater, honward⟩ := exists_onward hpages
    rw [hlater] at hscans
    subst hscans
    cases honward with
    | unread e hscan =>
      have hitems : Scan.items limit ⟨offset, p⟩ = [] := by rw [Scan.items, hscan]; rfl
      refine ⟨none, .unread e, ?_, ?_⟩
      · simpa [Scan.visits, hitems, visits] using h
      · simpa [Scan.visits, hitems, visits] using Covers.nil none
    | stopped e hscan hsteps =>
      obtain ⟨hran, hcovers⟩ := ran_steps h hsteps
      rw [List.flatMap_singleton, List.flatMap_singleton, Scan.visits, Scan.items_of_ok hscan]
      exact ⟨some e, .stopped e, hran, hcovers⟩
    | last hscan hsteps hlast =>
      obtain ⟨hran, hcovers⟩ := ran_steps h hsteps
      rw [List.flatMap_singleton, List.flatMap_singleton, Scan.visits, Scan.items_of_ok hscan]
      exact ⟨none, .completed, hran, hcovers⟩
    | full hscan hsteps hfull hrest =>
      obtain ⟨hran, hcovers⟩ := ran_steps h hsteps
      obtain ⟨stop, hcloses, hran', hcovers'⟩ := ih hran rfl hrest
      rw [List.flatMap_cons, List.flatMap_cons, Scan.visits, Scan.items_of_ok hscan,
        ← List.append_assoc]
      exact ⟨stop, hcloses, hran', hcovers.append hcovers'⟩

/-! ## The books of a run -/

/-- What the turns of a run have to do with the items of the pages that it has read, with its
receiver, and with its ending. -/
structure Books (receiver : Receiver σ) (n : Nat) (s : Store) (cancelled : Bool) (memory : σ)
    (visits : List (Visit σ)) (items : List String) (p' : Progress σ) (ending : Ending) :
    Prop where
  /-- Turns are given to the items in order. -/
  initial : visits.map (·.item) <+: items
  /-- Each turn finds the run as the turns before have left it. -/
  account : ∀ before v after, visits = before ++ v :: after →
    Account receiver n s cancelled memory before v.progress
  /-- All turns together have left the run as it is at its end. -/
  account_end : Account receiver n s cancelled memory visits p'
  /-- A list that is handed over is that of a stored item, and what the store answers then. -/
  handed : ∀ v ∈ visits, ∀ scores, (v.outcome receiver n).list? = some scores →
    v.item ∈ storedItems v.progress.store ∧
      (v.progress.store.similar v.item n).map (·.scores) = .ok scores
  /-- An item has vanished, and no list is handed over, exactly if it is not stored then. -/
  vanished : ∀ v ∈ visits, v.outcome receiver n = .vanished ↔
    v.progress.cancelled = false ∧ v.item ∉ storedItems v.progress.store
  /-- No item is started once the run is cancelled. -/
  idle : ∀ before v after, visits = before ++ v :: after →
    cancelled = true ∨ receiver.Cancels memory (listsHanded receiver n before) →
      v.outcome receiver n = .cancelled ∧ after = []
  /-- A completed run has given all items their turns, and each list was taken. -/
  completed : ending = .completed →
    visits.map (·.item) = items ∧
    listsHanded receiver n visits = listsTaken receiver n visits ∧
    p'.summary.visited = p'.summary.emitted + p'.summary.vanished ∧
    p'.summary.emitted = (listsTaken receiver n visits).length ∧
    p'.summary.visited = items.length
  /-- A cancelled run tells how many items were started before the one at which it stopped. -/
  stopped_cancelled : ∀ visited, ending = .stopped (.cancelled visited) →
    (∃ before v, visits = before ++ [v] ∧ v.outcome receiver n = .cancelled ∧
      visited = before.length) ∧
    listsHanded receiver n visits = listsTaken receiver n visits ∧
    visited = (listsTaken receiver n visits).length +
      visits.countP fun v => v.outcome receiver n = .vanished
  /-- A refused run tells the item whose list was handed over last, the only one not taken. -/
  stopped_sink : ∀ item text, ending = .stopped (.sink item text) → ∃ scores,
    (∃ before v, visits = before ++ [v] ∧ v.item = item ∧
      v.outcome receiver n = .refused scores text) ∧
    listsHanded receiver n visits = listsTaken receiver n visits ++ [(item, scores)]

namespace Ran

variable {receiver : Receiver σ} {n : Nat} {s : Store} {cancelled : Bool} {memory : σ}
  {p : Progress σ} {visits : List (Visit σ)} {items : List String}

/-- Only a run that a refusal has stopped has handed over a list that was not taken. -/
theorem lists_eq {p₀ : Progress σ} {stop : Option RunError} (h : Ran receiver n p₀ visits p stop)
    (hstop : ∀ item text, stop ≠ some (.sink item text)) :
    listsHanded receiver n visits = listsTaken receiver n visits := by
  cases h with
  | start => rfl
  | turn v h hturn =>
    obtain ⟨-, -, hlists⟩ := tally_of_goesOn (h.goesOn rfl)
    rw [listsHanded_append, listsTaken_append, hlists]
    cases hturn with
    | cancelled hcancelled =>
      rw [Visit.outcome_of_cancelled receiver n hcancelled]
      rfl
    | vanished hgoing hsimilar =>
      rw [Visit.outcome_of_notFound receiver hgoing hsimilar]
      rfl
    | failed error hgoing hsimilar herror =>
      rw [Visit.outcome_of_error receiver hgoing hsimilar herror]
      rfl
    | taken found hgoing hsimilar hrefusal =>
      rw [Visit.outcome_of_taken hgoing hsimilar hrefusal]
      rfl
    | refused found text hgoing hsimilar hrefusal => exact absurd rfl (hstop v.item text)

theorem summary_of_completed (h : Ran receiver n (.start s cancelled memory) visits p none)
    (hitems : visits.map (·.item) = items) :
    listsHanded receiver n visits = listsTaken receiver n visits ∧
    p.summary.visited = p.summary.emitted + p.summary.vanished ∧
    p.summary.emitted = (listsTaken receiver n visits).length ∧
    p.summary.visited = items.length := by
  obtain ⟨hvisited, hlength, hlists⟩ := tally_of_goesOn (h.goesOn rfl)
  rw [h.account.summary_eq, hvisited]
  refine ⟨hlists, hlength, rfl, ?_⟩
  rw [← hitems, List.length_map]

theorem of_cancelled {visited : Nat}
    (h : Ran receiver n (.start s cancelled memory) visits p (some (.cancelled visited))) :
    (∃ before v, visits = before ++ [v] ∧ v.outcome receiver n = .cancelled ∧
      visited = before.length) ∧
    listsHanded receiver n visits = listsTaken receiver n visits ∧
    visited = (listsTaken receiver n visits).length +
      visits.countP fun v => v.outcome receiver n = .vanished := by
  have hlists := h.lists_eq fun item text heq => by cases heq
  obtain ⟨before, v, rfl, hbefore, hturn⟩ := h.exists_last
  obtain ⟨hvisited, hlength, -⟩ := tally_of_goesOn (hbefore.goesOn rfl)
  cases hturn with
  | cancelled hcancelled =>
    have houtcome := Visit.outcome_of_cancelled receiver n hcancelled
    have hsummary := hbefore.account.summary_eq
    refine ⟨⟨before, v, rfl, houtcome, ?_⟩, hlists, ?_⟩
    · rw [hsummary, hvisited]
    · rw [hsummary, hvisited, hlength, tally, listsTaken_append, houtcome, List.countP_append]
      simp [Outcome.taken?, houtcome]

theorem of_sink {item text : String}
    (h : Ran receiver n (.start s cancelled memory) visits p (some (.sink item text))) :
    ∃ scores, (∃ before v, visits = before ++ [v] ∧ v.item = item ∧
        v.outcome receiver n = .refused scores text) ∧
      listsHanded receiver n visits = listsTaken receiver n visits ++ [(item, scores)] := by
  obtain ⟨before, v, rfl, hbefore, hturn⟩ := h.exists_last
  obtain ⟨-, -, hlists⟩ := tally_of_goesOn (hbefore.goesOn rfl)
  cases hturn with
  | refused found text hgoing hsimilar hrefusal =>
    have houtcome := Visit.outcome_of_refused hgoing hsimilar hrefusal
    refine ⟨found.scores, ⟨before, v, rfl, rfl, houtcome⟩, ?_⟩
    rw [listsHanded_append, listsTaken_append, hlists, houtcome]
    simp [Outcome.list?, Outcome.taken?]

/-- A turn that comes after the run was cancelled is the last. -/
theorem idle {stop : Option RunError}
    (h : Ran receiver n (.start s cancelled memory) visits p stop)
    {before after : List (Visit σ)} {v : Visit σ} (hsplit : visits = before ++ v :: after)
    (hcancelled : cancelled = true ∨ receiver.Cancels memory (listsHanded receiver n before)) :
    v.outcome receiver n = .cancelled ∧ after = [] := by
  have hbefore := h.before hsplit
  have houtcome := Visit.outcome_of_cancelled receiver n (hbefore.account.cancelled_iff.2 hcancelled)
  refine ⟨houtcome, ?_⟩
  -- Otherwise the turn before the last would have stopped the run.
  rcases List.eq_nil_or_concat after with hnil | ⟨after, last, rfl⟩
  · exact hnil
  · exfalso
    have hsplit' : visits = (before ++ v :: after) ++ last :: [] := by
      rw [hsplit, List.concat_eq_append, List.append_assoc]
      rfl
    have hgoes := (h.before hsplit').goesOn rfl v (by simp)
    rw [houtcome] at hgoes
    rcases hgoes with hgoes | ⟨scores, hgoes⟩ <;> cases hgoes

theorem books {stop : Option RunError} {ending : Ending}
    (h : Ran receiver n (.start s cancelled memory) visits p stop)
    (hreach : visits ≠ [] → ∃ t, s.reach = .ok t) (hcovers : Covers visits items stop)
    (hcloses : Closes stop ending) : Books receiver n s cancelled memory visits items p ending where
  initial := hcovers.initial
  account before v after hsplit := (h.before hsplit).account
  account_end := h.account
  handed v hv scores hscores := Visit.of_list?_eq_some hscores
  vanished v hv := by
    obtain ⟨before, after, hsplit⟩ := List.append_of_mem hv
    exact Visit.outcome_eq_vanished_iff
      ((h.before hsplit).exists_reach (hreach (List.ne_nil_of_mem hv)))
  idle before v after hsplit hcancelled := h.idle hsplit hcancelled
  completed hending := by
    subst hending
    cases hcloses
    have hitems := hcovers.all_of_none rfl
    exact ⟨hitems, h.summary_of_completed hitems⟩
  stopped_cancelled visited hending := by
    subst hending
    cases hcloses
    exact h.of_cancelled
  stopped_sink item text hending := by
    subst hending
    cases hcloses
    exact h.of_sink

end Ran

namespace Plan

/-- The items of the pages that a run reads. -/
def items (plan : Plan) (receiver : Receiver σ) (pages : Nat) (start : Progress σ) : List String :=
  (plan.scans receiver pages start).flatMap (Scan.items plan.limit)

/-- The turns of a run. -/
def visits (plan : Plan) (receiver : Receiver σ) (pages : Nat) (start : Progress σ) :
    List (Visit σ) :=
  (plan.scans receiver pages start).flatMap (Scan.visits receiver plan.neighbors plan.limit)

/-- Turns are given only if the first page could be read. -/
theorem exists_reach_of_visits {plan : Plan} {receiver : Receiver σ} {pages : Nat}
    {start : Progress σ} (h : plan.visits receiver pages start ≠ []) :
    ∃ t, start.store.reach = .ok t := by
  cases pages with
  | zero => exact absurd rfl h
  | succ pages =>
    obtain ⟨p', ending, hrun⟩ : ∃ p' ending, plan.run receiver (pages + 1) start = (p', ending) :=
      ⟨_, _, rfl⟩
    obtain ⟨scans, hscans, honward⟩ := Progress.exists_onward hrun
    cases honward with
    | unread e hscan =>
      refine absurd ?_ h
      have hitems : Scan.items plan.limit ⟨0, start⟩ = [] := by rw [Scan.items, hscan]; rfl
      rw [visits, Plan.scans, hscans, List.flatMap_singleton, Scan.visits, hitems]
      rfl
    | stopped e hscan hsteps | last hscan hsteps hlast | full hscan hsteps hfull hrest =>
      obtain ⟨t, ht, -⟩ := Store.scan_eq_ok.1 hscan
      exact ⟨t, ht⟩

/-- Every run has its books, whatever the receiver does to the store, to the run and to the lists. -/
theorem books_of_run {plan : Plan} {receiver : Receiver σ} {pages : Nat} {s : Store}
    {cancelled : Bool} {memory : σ} {p' : Progress σ} {ending : Ending}
    (h : plan.run receiver pages (.start s cancelled memory) = (p', ending)) :
    Books receiver plan.neighbors s cancelled memory
      (plan.visits receiver pages (.start s cancelled memory))
      (plan.items receiver pages (.start s cancelled memory)) p' ending := by
  obtain ⟨stop, hcloses, hran, hcovers⟩ := Progress.ran_pagesFrom .start rfl h
  exact hran.books exists_reach_of_visits hcovers hcloses

/-- A script that deletes an item before its turn, and later cancels the run. -/
def meddling : Script := [⟨"a", [.delete "b"], none⟩, ⟨"c", [.cancel], none⟩]

/-- What the run knows when it is stopped. -/
def meddled : Progress Unit :=
  ⟨equalStore ["a", "c", "d"], true, (), ⟨3, 2, 1⟩,
    [("a", [⟨"b", .one⟩]), ("c", [⟨"a", .one⟩])], []⟩

theorem scan_meddling :
    (equalStore ["a", "b", "c", "d"]).scan 0 none = .ok (equalPage ["a", "b", "c", "d"]) := by
  rw [scan_equalStore (by decide)]
  decide +kernel

theorem run_meddling :
    run ⟨1, 0⟩ meddling.receiver 1 (.start (equalStore ["a", "b", "c", "d"]) false ()) =
      (meddled, .stopped (.cancelled 3)) := by
  have hsteps : Progress.steps meddling.receiver 1
      (.start (equalStore ["a", "b", "c", "d"]) false ())
      ((equalPage ["a", "b", "c", "d"]).map (·.item)) = (meddled, some (.cancelled 3)) := by
    decide +kernel
  exact Progress.pagesFrom_of_stop hsteps scan_meddling

/-- Two of four lists are taken, one item has vanished, and the last is not started. -/
theorem books_of_run_meddling :
    run ⟨1, 0⟩ meddling.receiver 1 (.start (equalStore ["a", "b", "c", "d"]) false ()) =
      (meddled, .stopped (.cancelled 3)) ∧
    3 = meddled.delivered.length +
      (visits ⟨1, 0⟩ meddling.receiver 1 (.start (equalStore ["a", "b", "c", "d"]) false ())).countP
        fun v => v.outcome meddling.receiver 1 = .vanished := by
  have hbooks := books_of_run run_meddling
  obtain ⟨-, hlists, hvisited⟩ := hbooks.stopped_cancelled 3 rfl
  refine ⟨run_meddling, ?_⟩
  rw [hbooks.account_end.delivered_eq]
  exact hvisited

end Plan

end SimilarItems.Neighbors
