import SimilarItems.Proofs.Neighbors.Turns
import SimilarItems.Proofs.Store.History

/-!
# Accounts of turns

How each turn goes is told from the run as it is when the turn comes. What the run has counted and
handed over, and what the receiver has done to the store, is then told from its turns.
-/

namespace SimilarItems.Neighbors

variable {σ : Type}

/-! ## Receivers that are replayed -/

/-- The call to a store that an action makes. -/
def Action.changes : Action → List Change
  | .cancel => []
  | .delete item => [.delete item]
  | .put e => [.put e]

namespace Receiver

/-- The calls that a receiver makes while it is handed lists. -/
def changes (receiver : Receiver σ) (memory : σ) (lists : List (String × List Score)) :
    List Change :=
  (receiver.responses memory lists).flatMap fun response => response.actions.flatMap Action.changes

/-- The receiver cancels the run while it is handed lists. -/
def Cancels (receiver : Receiver σ) (memory : σ) (lists : List (String × List Score)) : Prop :=
  ∃ response ∈ receiver.responses memory lists, .cancel ∈ response.actions

theorem changes_append (receiver : Receiver σ) (memory : σ)
    (lists : List (String × List Score)) (item : String) (scores : List Score) :
    receiver.changes memory (lists ++ [(item, scores)]) = receiver.changes memory lists ++
      (receiver (receiver.memoryAfter memory lists) item scores).actions.flatMap Action.changes := by
  simp [changes, responses_append, responses]

theorem memoryAfter_append (receiver : Receiver σ) (memory : σ)
    (lists : List (String × List Score)) (item : String) (scores : List Score) :
    receiver.memoryAfter memory (lists ++ [(item, scores)]) =
      (receiver (receiver.memoryAfter memory lists) item scores).memory := by
  simp [memoryAfter]

theorem cancels_append {receiver : Receiver σ} {memory : σ} {lists : List (String × List Score)}
    {item : String} {scores : List Score} :
    receiver.Cancels memory (lists ++ [(item, scores)]) ↔ receiver.Cancels memory lists ∨
      .cancel ∈ (receiver (receiver.memoryAfter memory lists) item scores).actions := by
  simp [Cancels, responses_append, responses, or_and_right, exists_or]

end Receiver

namespace Progress

/-- An action does to the store what its call does. -/
theorem store_act_eq (p : Progress σ) (a : Action) :
    (p.act a).store = (History.after p.store a.changes).store := by
  cases a with
  | cancel => rfl
  | delete item =>
    show (p.store.delete item).toOption.getD p.store = (History.step _ _).store
    rw [History.store_step]
    rfl
  | put e =>
    show (p.store.put e).toOption.getD p.store = (History.step _ _).store
    rw [History.store_step]
    rfl

theorem store_acts_eq (p : Progress σ) (actions : List Action) :
    (actions.foldl act p).store =
      (History.after p.store (actions.flatMap Action.changes)).store := by
  induction actions generalizing p with
  | nil => rfl
  | cons a actions ih =>
    rw [List.foldl_cons, ih, store_act_eq, List.flatMap_cons, History.store_after_append]

theorem cancelled_acts_iff {p : Progress σ} {actions : List Action} :
    (actions.foldl act p).cancelled = true ↔ p.cancelled = true ∨ .cancel ∈ actions := by
  induction actions generalizing p with
  | nil => simp
  | cons a actions ih =>
    rw [List.foldl_cons, ih]
    cases a <;> simp [act]

theorem exists_reach_act {p : Progress σ} (h : ∃ t, p.store.reach = .ok t) (a : Action) :
    ∃ t, (p.act a).store.reach = .ok t := by
  rcases store_act p a with hs | ⟨t, ht, ⟨item, -, hs⟩ | ⟨e, row, -, -, hs⟩⟩
  · rwa [hs]
  · exact ⟨_, hs ▸ Store.reach_withTable ht _⟩
  · exact ⟨_, hs ▸ Store.reach_withTable ht _⟩

theorem exists_reach_acts {p : Progress σ} (h : ∃ t, p.store.reach = .ok t)
    (actions : List Action) : ∃ t, (actions.foldl act p).store.reach = .ok t :=
  acts_induction (P := fun p => ∃ t, p.store.reach = .ok t) (Q := fun _ => True)
    (fun _ a _ hp => exists_reach_act hp a) h fun _ _ => trivial

theorem exists_reach_respond {receiver : Receiver σ} {p : Progress σ} {item : String}
    {found : Nearest} (h : ∃ t, p.store.reach = .ok t) :
    ∃ t, (p.respond receiver item found).store.reach = .ok t := by
  rw [respond]
  refine exists_reach_acts ?_ _
  exact h

end Progress

/-! ## Turns -/

/-- How the turn of an item goes: the run has been cancelled, the item is no longer stored, the store
fails, or the receiver takes or refuses a list. -/
inductive Outcome where
  | cancelled
  | vanished
  | failed (error : StoreError)
  | taken (scores : List Score)
  | refused (scores : List Score) (text : String)
deriving DecidableEq

namespace Outcome

/-- The list that is handed over. -/
def list? : Outcome → Option (List Score)
  | taken scores => some scores
  | refused scores _ => some scores
  | _ => none

/-- The list that the receiver takes. -/
def taken? : Outcome → Option (List Score)
  | taken scores => some scores
  | _ => none

/-- The run goes on after the turn. -/
def GoesOn (o : Outcome) : Prop := o = vanished ∨ ∃ scores, o = taken scores

end Outcome

/-- The turn of an item, with the run as it is when the turn comes. -/
structure Visit (σ : Type) where
  item : String
  progress : Progress σ

namespace Visit

/-- How a turn goes. -/
def outcome (receiver : Receiver σ) (n : Nat) (v : Visit σ) : Outcome :=
  if v.progress.cancelled then .cancelled
  else
    match v.progress.store.similar v.item n with
    | .error (.notFound _) => .vanished
    | .error error => .failed error
    | .ok found =>
      match (receiver v.progress.memory v.item found.scores).refusal with
      | none => .taken found.scores
      | some text => .refused found.scores text

variable (receiver : Receiver σ) (n : Nat) {v : Visit σ}

theorem outcome_of_cancelled (hcancelled : v.progress.cancelled = true) :
    v.outcome receiver n = .cancelled := by
  rw [outcome, if_pos hcancelled]

variable {n}

theorem outcome_of_notFound (hgoing : v.progress.cancelled = false)
    (hsimilar : v.progress.store.similar v.item n = .error (.notFound v.item)) :
    v.outcome receiver n = .vanished := by
  rw [outcome, if_neg (Bool.eq_false_iff.1 hgoing), hsimilar]

theorem outcome_of_error (hgoing : v.progress.cancelled = false) {error : StoreError}
    (hsimilar : v.progress.store.similar v.item n = .error error)
    (herror : ∀ x, error ≠ .notFound x) : v.outcome receiver n = .failed error := by
  rw [outcome, if_neg (Bool.eq_false_iff.1 hgoing), hsimilar]
  cases error with
  | notFound x => exact absurd rfl (herror x)
  | _ => rfl

variable {receiver}

theorem outcome_of_taken (hgoing : v.progress.cancelled = false) {found : Nearest}
    (hsimilar : v.progress.store.similar v.item n = .ok found)
    (hrefusal : (receiver v.progress.memory v.item found.scores).refusal = none) :
    v.outcome receiver n = .taken found.scores := by
  rw [outcome, if_neg (Bool.eq_false_iff.1 hgoing), hsimilar]
  simp only [hrefusal]

theorem outcome_of_refused (hgoing : v.progress.cancelled = false) {found : Nearest}
    {text : String} (hsimilar : v.progress.store.similar v.item n = .ok found)
    (hrefusal : (receiver v.progress.memory v.item found.scores).refusal = some text) :
    v.outcome receiver n = .refused found.scores text := by
  rw [outcome, if_neg (Bool.eq_false_iff.1 hgoing), hsimilar]
  simp only [hrefusal]

/-- The turn of an item is of one of the kinds that there are. -/
theorem exists_turn (receiver : Receiver σ) (n : Nat) (v : Visit σ) :
    ∃ p' stop, Progress.Turn receiver n v.progress v.item p' stop :=
  ⟨_, _, Progress.turn_of_step rfl⟩

/-- An item vanishes exactly if it is not stored when its turn comes. -/
theorem outcome_eq_vanished_iff (hreach : ∃ t, v.progress.store.reach = .ok t) :
    v.outcome receiver n = .vanished ↔
      v.progress.cancelled = false ∧ v.item ∉ storedItems v.progress.store := by
  obtain ⟨p', stop, hturn⟩ := exists_turn receiver n v
  cases hturn with
  | cancelled hcancelled => simp [outcome_of_cancelled receiver n hcancelled, hcancelled]
  | vanished hgoing hsimilar =>
    simp [outcome_of_notFound receiver hgoing hsimilar, hgoing, notMem_storedItems_of_similar hsimilar]
  | failed error hgoing hsimilar herror =>
    obtain ⟨t, ht⟩ := hreach
    have hstored : v.item ∈ storedItems v.progress.store := by
      by_contra hno
      rw [storedItems_of_reach ht] at hno
      have hnotFound := (Store.similar_eq_notFound (n := n)).2 ⟨rfl, t, ht, hno⟩
      rw [hsimilar] at hnotFound
      exact herror v.item (Except.error.inj hnotFound)
    simp [outcome_of_error receiver hgoing hsimilar herror, hstored]
  | taken found hgoing hsimilar hrefusal =>
    simp [outcome_of_taken hgoing hsimilar hrefusal, mem_storedItems_of_similar hsimilar]
  | refused found text hgoing hsimilar hrefusal =>
    simp [outcome_of_refused hgoing hsimilar hrefusal, mem_storedItems_of_similar hsimilar]

/-- A list that is handed over is that of a stored item, and what the store then answers. -/
theorem of_list?_eq_some {scores : List Score}
    (h : (v.outcome receiver n).list? = some scores) :
    v.item ∈ storedItems v.progress.store ∧
      (v.progress.store.similar v.item n).map (·.scores) = .ok scores := by
  unfold outcome at h
  split at h
  · cases h
  · split at h
    · cases h
    · cases h
    · rename_i found hfound
      have hscores : found.scores = scores := by
        split at h
        · exact Option.some.inj h
        · exact Option.some.inj h
      refine ⟨mem_storedItems_of_similar hfound, ?_⟩
      rw [hfound, ← hscores]
      rfl

end Visit

/-! ## Accounts -/

section Account

variable (receiver : Receiver σ) (n : Nat)

/-- The lists that are handed over in turns. -/
def listsHanded (visits : List (Visit σ)) : List (String × List Score) :=
  visits.filterMap fun v => (v.outcome receiver n).list?.map fun scores => (v.item, scores)

/-- The lists that are taken in turns. -/
def listsTaken (visits : List (Visit σ)) : List (String × List Score) :=
  visits.filterMap fun v => (v.outcome receiver n).taken?.map fun scores => (v.item, scores)

/-- The counts of turns. A cancelled run starts none. -/
def tally (visits : List (Visit σ)) : Summary :=
  ⟨visits.countP fun v => v.outcome receiver n ≠ .cancelled, (listsTaken receiver n visits).length,
    visits.countP fun v => v.outcome receiver n = .vanished⟩

variable (s : Store) (cancelled : Bool) (memory : σ)

/-- What a run from a store has come to after its first turns: the receiver has done to the store, to
its own memory and to the run what it does when it is handed their lists, and the counts and the lists
that were taken are those of the turns. -/
structure Account (visits : List (Visit σ)) (p : Progress σ) : Prop where
  store_eq : p.store =
    (History.after s (receiver.changes memory (listsHanded receiver n visits))).store
  memory_eq : p.memory = receiver.memoryAfter memory (listsHanded receiver n visits)
  cancelled_iff : p.cancelled = true ↔
    cancelled = true ∨ receiver.Cancels memory (listsHanded receiver n visits)
  summary_eq : p.summary = tally receiver n visits
  delivered_eq : p.delivered = listsTaken receiver n visits

variable {receiver n s cancelled memory}

theorem account_start : Account receiver n s cancelled memory [] (.start s cancelled memory) where
  store_eq := rfl
  memory_eq := rfl
  cancelled_iff := by simp [Progress.start, Receiver.Cancels, listsHanded, Receiver.responses]
  summary_eq := rfl
  delivered_eq := rfl

variable {visits : List (Visit σ)} {v : Visit σ} {p p' : Progress σ}

theorem listsHanded_append :
    listsHanded receiver n (visits ++ [v]) = listsHanded receiver n visits ++
      ((v.outcome receiver n).list?.map fun scores => (v.item, scores)).toList := by
  rw [listsHanded, List.filterMap_append, ← listsHanded]
  cases h : (v.outcome receiver n).list? <;> simp [h]

theorem listsTaken_append :
    listsTaken receiver n (visits ++ [v]) = listsTaken receiver n visits ++
      ((v.outcome receiver n).taken?.map fun scores => (v.item, scores)).toList := by
  rw [listsTaken, List.filterMap_append, ← listsTaken]
  cases h : (v.outcome receiver n).taken? <;> simp [h]

/-- A turn in which no list is handed over changes no more than the counts. -/
theorem Account.unhanded (h : Account receiver n s cancelled memory visits v.progress)
    (hlist : (v.outcome receiver n).list? = none) (htaken : (v.outcome receiver n).taken? = none)
    (hp' : p' = { v.progress with summary := tally receiver n (visits ++ [v]) }) :
    Account receiver n s cancelled memory (visits ++ [v]) p' := by
  have hlists : listsHanded receiver n (visits ++ [v]) = listsHanded receiver n visits := by
    rw [listsHanded_append, hlist]
    exact List.append_nil _
  have hdelivered : listsTaken receiver n (visits ++ [v]) = listsTaken receiver n visits := by
    rw [listsTaken_append, htaken]
    exact List.append_nil _
  subst hp'
  constructor
  · rw [hlists]
    exact h.store_eq
  · rw [hlists]
    exact h.memory_eq
  · rw [hlists]
    exact h.cancelled_iff
  · rfl
  · rw [hdelivered]
    exact h.delivered_eq

/-- After a turn in which a list is handed over, the receiver has answered one more list. -/
theorem Account.handed (h : Account receiver n s cancelled memory visits v.progress)
    {found : Nearest} (hlist : (v.outcome receiver n).list? = some found.scores)
    {response : Progress σ} (hresponse : response = v.progress.respond receiver v.item found)
    (hstore : p'.store = response.store) (hmemory : p'.memory = response.memory)
    (hcancelled : p'.cancelled = response.cancelled)
    (hsummary : p'.summary = tally receiver n (visits ++ [v]))
    (hdelivered : p'.delivered = listsTaken receiver n (visits ++ [v])) :
    Account receiver n s cancelled memory (visits ++ [v]) p' := by
  have hlists : listsHanded receiver n (visits ++ [v]) =
      listsHanded receiver n visits ++ [(v.item, found.scores)] := by
    rw [listsHanded_append, hlist]
    rfl
  subst hresponse
  constructor
  · rw [hlists, Receiver.changes_append, History.store_after_append, ← h.store_eq, ← h.memory_eq,
      hstore, Progress.respond, Progress.store_acts_eq]
    rfl
  · rw [hlists, Receiver.memoryAfter_append, ← h.memory_eq, hmemory, Progress.respond,
      Progress.acts_eq]
  · rw [hlists, Receiver.cancels_append, ← or_assoc, ← h.cancelled_iff, ← h.memory_eq, hcancelled,
      Progress.respond, Progress.cancelled_acts_iff]
    rfl
  · exact hsummary
  · exact hdelivered

/-- A turn keeps the account. -/
theorem Account.append (h : Account receiver n s cancelled memory visits v.progress)
    {stop : Option RunError} (hturn : Progress.Turn receiver n v.progress v.item p' stop) :
    Account receiver n s cancelled memory (visits ++ [v]) p' := by
  have hsummary := h.summary_eq
  have hdelivered := h.delivered_eq
  cases hturn with
  | cancelled hcancelled =>
    have houtcome := Visit.outcome_of_cancelled receiver n hcancelled
    refine h.unhanded (by rw [houtcome]; rfl) (by rw [houtcome]; rfl) ?_
    have htally : tally receiver n (visits ++ [v]) = v.progress.summary := by
      simp [hsummary, tally, listsTaken_append, houtcome, Outcome.taken?]
    rw [htally]
  | vanished hgoing hsimilar =>
    have houtcome := Visit.outcome_of_notFound receiver hgoing hsimilar
    refine h.unhanded (by rw [houtcome]; rfl) (by rw [houtcome]; rfl) ?_
    have htally : tally receiver n (visits ++ [v]) = v.progress.visit.vanish.summary := by
      simp [Progress.visit, Progress.vanish, hsummary, tally, listsTaken_append, houtcome,
        Outcome.taken?]
    rw [htally]
    rfl
  | failed error hgoing hsimilar herror =>
    have houtcome := Visit.outcome_of_error receiver hgoing hsimilar herror
    refine h.unhanded (by rw [houtcome]; rfl) (by rw [houtcome]; rfl) ?_
    have htally : tally receiver n (visits ++ [v]) = v.progress.visit.summary := by
      simp [Progress.visit, hsummary, tally, listsTaken_append, houtcome, Outcome.taken?]
    rw [htally]
    rfl
  | taken found hgoing hsimilar hrefusal =>
    have houtcome := Visit.outcome_of_taken hgoing hsimilar hrefusal
    have hlist : (v.outcome receiver n).list? = some found.scores := by rw [houtcome]; rfl
    refine h.handed hlist rfl rfl rfl rfl ?_ ?_
    · rw [Progress.deliver, Progress.respond, Progress.acts_eq]
      simp [Progress.visit, hsummary, tally, listsTaken_append, houtcome, Outcome.taken?]
    · rw [Progress.deliver, Progress.respond, Progress.acts_eq]
      simp [Progress.visit, hdelivered, listsTaken_append, houtcome, Outcome.taken?]
  | refused found text hgoing hsimilar hrefusal =>
    have houtcome := Visit.outcome_of_refused hgoing hsimilar hrefusal
    have hlist : (v.outcome receiver n).list? = some found.scores := by rw [houtcome]; rfl
    refine h.handed hlist rfl rfl rfl rfl ?_ ?_
    · rw [Progress.respond, Progress.acts_eq]
      simp [Progress.visit, hsummary, tally, listsTaken_append, houtcome, Outcome.taken?]
    · rw [Progress.respond, Progress.acts_eq]
      simp [Progress.visit, hdelivered, listsTaken_append, houtcome, Outcome.taken?]

end Account

/-- After turns that the run goes on after, each has either vanished or had its list taken. -/
theorem tally_of_goesOn {receiver : Receiver σ} {n : Nat} {visits : List (Visit σ)}
    (h : ∀ v ∈ visits, (v.outcome receiver n).GoesOn) :
    (tally receiver n visits).visited = visits.length ∧
      visits.length = (tally receiver n visits).emitted + (tally receiver n visits).vanished ∧
      listsHanded receiver n visits = listsTaken receiver n visits := by
  have hkinds : ∀ v ∈ visits, v.outcome receiver n ≠ .cancelled ∧
      ((v.outcome receiver n).taken?.isSome ↔ ¬ v.outcome receiver n = .vanished) ∧
      (v.outcome receiver n).list? = (v.outcome receiver n).taken? := by
    intro v hv
    rcases h v hv with houtcome | ⟨scores, houtcome⟩
    · simp [houtcome, Outcome.list?, Outcome.taken?]
    · simp [houtcome, Outcome.list?, Outcome.taken?]
  refine ⟨?_, ?_, ?_⟩
  · refine List.countP_eq_length.2 fun v hv => ?_
    simpa using (hkinds v hv).1
  · have htaken : (listsTaken receiver n visits).length =
        visits.countP fun v => ¬ v.outcome receiver n = .vanished := by
      rw [listsTaken, List.length_filterMap_eq_countP]
      refine List.countP_congr fun v hv => ?_
      rw [Option.isSome_map, decide_eq_true_iff]
      exact (hkinds v hv).2.1
    rw [tally, htaken, Nat.add_comm]
    simpa using List.length_eq_countP_add_countP
      (fun v : Visit σ => decide (v.outcome receiver n = .vanished)) (l := visits)
  · refine List.filterMap_congr fun v hv => ?_
    rw [(hkinds v hv).2.2]

end SimilarItems.Neighbors
