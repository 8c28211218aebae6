import Mathlib.Data.List.Perm.Basic
import SimilarItems.Recommend.Run

/-!
# Every way in which a run can go

What one event can do to a run is listed once, as a `Move`. From it follow the invariant of all
runs, a potential that every event which changes a run lowers, and that a run which nothing but a
cancellation can change has ended.
-/

namespace SimilarItems.Recommend

/-- The seeds of a request: one for each feedback event, none if there is no feedback to be had. -/
def Request.seeds (q : Request) : List String :=
  match q.feedback q.feedbackQuery with
  | .ok events => events.map (·.item)
  | .error _ => []

/-- The lookups of a request. -/
def Request.lookups (q : Request) : List Pair := q.pairs q.seeds

/-- What becomes of a lookup that is answered. -/
def Request.resultOf (q : Request) (p : Pair) : Result := .answered (q.neighbors (q.listQuery p))

theorem Request.lookups_eq {q : Request} {events : List Feedback}
    (hq : q.feedback q.feedbackQuery = .ok events) :
    q.lookups = q.pairs (events.map (·.item)) := by
  rw [lookups, seeds, hq]

theorem Request.window_pos (q : Request) : 0 < q.window := by
  have := Nat.le_max_right q.settings.maxConcurrentLookups 1
  rw [window]
  omega

namespace Run

/-! ## Single steps -/

/-- The lookup that an event lets finish, if it does. -/
def completes (r : Run) : Event → List Pair
  | .finish place _ => r.running[place]?.toList
  | _ => []

/-- What an event can do to a run, and when. -/
inductive Move (q : Request) (r : Run) : Event → Run → Prop where
  /-- Nothing. -/
  | stay (e : Event) (hn : r.completes e = []) : Move q r e r
  /-- The request is cancelled. -/
  | cancel : Move q r .cancel { r with cancelled := true }
  /-- The run ends for the cancellation before there is feedback, even if the answer is there. -/
  | abandon (e : Event) (he : e = .answer ∨ e = .advance) (hs : r.stage = .loading)
      (hc : r.cancelled) : Move q r e (r.finishWith (.error .cancelled))
  /-- The run ends because there is no feedback. -/
  | fail (error : ServiceError) (hs : r.stage = .loading) (hc : r.cancelled = false)
      (hq : q.feedback q.feedbackQuery = .error error) :
      Move q r .answer (r.finishWith (.error (.feedback error)))
  /-- The feedback comes. -/
  | load (events : List Feedback) (hs : r.stage = .loading) (hc : r.cancelled = false)
      (hq : q.feedback q.feedbackQuery = .ok events) :
      Move q r .answer { r with stage := .filling, pending := q.lookups }
  /-- A lookup starts. -/
  | spawn (p : Pair) (rest : List Pair) (hs : r.stage = .filling) (hp : r.pending = p :: rest)
      (hw : r.inFlight < q.window) (hc : r.cancelled = false) : Move q r .advance (r.spawn p rest)
  /-- No more lookups can start at present. -/
  | wait (hs : r.stage = .filling)
      (hp : r.pending = [] ∨ q.window ≤ r.inFlight ∨ r.cancelled) :
      Move q r .advance { r with stage := .joining }
  /-- A finished lookup is taken in. -/
  | collect (j : Pair × Result) (rest : List (Pair × Result)) (hs : r.stage = .joining)
      (hf : r.finished = j :: rest) :
      Move q r .advance { r with stage := .filling, finished := rest, joined := r.joined ++ [j] }
  /-- The run ends for the cancellation when no lookup is under way any more. -/
  | giveUp (hs : r.stage = .joining) (hf : r.finished = []) (hr : r.running = [])
      (hc : r.cancelled) : Move q r .advance (r.finishWith (.error .cancelled))
  /-- The run ends with the candidates. -/
  | complete (hs : r.stage = .joining) (hf : r.finished = []) (hr : r.running = [])
      (hc : r.cancelled = false) : Move q r .advance (r.finishWith (.ok (q.candidates r.joined)))
  /-- A running lookup finishes. -/
  | finish (place : Nat) (noticed : Bool) (p : Pair) (result : Result)
      (hp : r.running[place]? = some p)
      (hr : result = q.resultOf p ∨ result = .cancelled ∧ r.cancelled) :
      Move q r (.finish place noticed) { r with
        running := r.running.eraseIdx place, finished := r.finished ++ [(p, result)] }

/-- A cancellation between the look at it and the answer of the feedback service comes to the same as
one right after the answer. -/
theorem load_step_cancel {q : Request} {r : Run} (hs : r.stage = .loading)
    (hc : r.cancelled = false) : load q (r.step q .cancel) = (r.step q .answer).step q .cancel := by
  have hanswer : r.step q .answer = load q r := by simp [step, hs, poll, hc]
  rw [hanswer, load, load]
  split <;> rfl

theorem move_answer {q : Request} {r : Run} (hs : r.stage = .loading) :
    Move q r .answer (poll q r true) := by
  rw [poll]
  by_cases hc : r.cancelled
  · rw [if_pos hc]
    exact .abandon .answer (.inl rfl) hs hc
  · rw [if_neg hc, if_pos rfl, Run.load]
    rw [Bool.not_eq_true] at hc
    split
    case h_1 error hq => exact .fail error hs hc hq
    case h_2 events hq =>
      rw [← Request.lookups_eq hq]
      exact .load events hs hc hq

theorem move_poll {q : Request} {r : Run} (hs : r.stage = .loading) :
    Move q r .advance (poll q r false) := by
  rw [poll]
  by_cases hc : r.cancelled
  · rw [if_pos hc]
    exact .abandon .advance (.inr rfl) hs hc
  · rw [if_neg hc, if_neg Bool.false_ne_true]
    exact .stay .advance rfl

theorem move_fill {q : Request} {r : Run} (hs : r.stage = .filling) :
    Move q r .advance (fill q r) := by
  rw [fill]
  split
  case h_1 p rest hp =>
    split
    case isTrue hw =>
      rw [Bool.and_eq_true, decide_eq_true_iff, Bool.not_eq_true'] at hw
      exact .spawn p rest hs hp hw.1 hw.2
    case isFalse hw =>
      rw [Bool.and_eq_true, decide_eq_true_iff, Bool.not_eq_true', not_and_or, Nat.not_lt,
        Bool.not_eq_false] at hw
      exact .wait hs (.inr hw)
  case h_2 hp => exact .wait hs (.inl hp)

theorem move_join {q : Request} {r : Run} (hs : r.stage = .joining) :
    Move q r .advance (join q r) := by
  rw [join]
  split
  case h_1 j rest hf => exact .collect j rest hs hf
  case h_2 hf =>
    by_cases hr : r.running = []
    · by_cases hc : r.cancelled
      · simpa [hr, hc] using .giveUp hs hf hr hc
      · simpa [hr, hc] using .complete hs hf hr (Bool.eq_false_iff.2 hc)
    · simpa [hr] using .stay .advance rfl

theorem move_finishAt (q : Request) (r : Run) (place : Nat) (noticed : Bool) :
    Move q r (.finish place noticed) (finishAt q r place noticed) := by
  rw [finishAt]
  cases hp : r.running[place]? with
  | none => exact .stay _ (by rw [completes, hp, Option.toList_none])
  | some p =>
    refine .finish place noticed p _ hp ?_
    by_cases h : r.cancelled ∧ noticed
    · exact .inr ⟨by simp [h.1, h.2], h.1⟩
    · refine .inl ?_
      have : (r.cancelled && noticed) = false := by simpa using h
      simp [this, Request.resultOf]

/-- Whatever an event does to a run is one of the moves. -/
theorem move_step (q : Request) (r : Run) (e : Event) : Move q r e (r.step q e) := by
  cases e with
  | cancel => exact .cancel
  | finish place noticed => exact move_finishAt q r place noticed
  | answer =>
    rw [step]
    split
    · exact move_answer ‹_›
    · exact .stay .answer rfl
  | advance =>
    rw [step]
    split
    · exact move_poll ‹_›
    · exact move_fill ‹_›
    · exact move_join ‹_›
    · exact .stay .advance rfl

/-! ## The invariant -/

/-- What holds of a run at any time. -/
structure Invariant (q : Request) (r : Run) : Prop where
  /-- Nothing is looked up before there is feedback. -/
  loading : r.stage = .loading → r.pending = [] ∧ r.spawned = []
  /-- The lookups start in their order. -/
  order : r.stage = .filling ∨ r.stage = .joining → r.spawned ++ r.pending = q.lookups
  /-- Every lookup that started is running, or has finished, or was taken in, once. -/
  conserved : r.spawned.Perm (r.running ++ (r.joined ++ r.finished).map (·.1))
  /-- A lookup is answered unless the request was cancelled. -/
  results : ∀ j ∈ r.joined ++ r.finished,
    j.2 = q.resultOf j.1 ∨ j.2 = .cancelled ∧ r.cancelled
  /-- No more lookups are under way than the settings allow. -/
  window : r.inFlight ≤ q.window
  /-- A run waits only when no lookup can start. -/
  waiting : r.stage = .joining → r.pending = [] ∨ q.window ≤ r.inFlight ∨ r.cancelled
  /-- A run that ends with candidates has taken in the answer of every lookup. -/
  completed : ∀ set, r.stage = .ended (.ok set) →
    r.spawned = q.lookups ∧ r.pending = [] ∧ r.running = [] ∧ r.finished = [] ∧
      set = q.candidates r.joined ∧ ∀ j ∈ r.joined, j.2 = q.resultOf j.1
  /-- A run fails only for a cancellation or for want of feedback. -/
  failed : ∀ failure, r.stage = .ended (.error failure) →
    failure = .cancelled ∧ r.cancelled ∨
      ∃ error, failure = .feedback error ∧ q.feedback q.feedbackQuery = .error error

theorem invariant_start (q : Request) : Invariant q start where
  loading _ := ⟨rfl, rfl⟩
  order h := by rcases h with h | h <;> cases h
  conserved := .nil
  results _ h := by cases h
  window := Nat.zero_le _
  waiting h := by cases h
  completed _ h := by cases h
  failed _ h := by cases h

/-- What a wait for lookups comes to when none is under way: all have been started. -/
theorem Invariant.pending_eq_nil {q : Request} {r : Run} (h : Invariant q r)
    (hs : r.stage = .joining) (hf : r.finished = []) (hr : r.running = [])
    (hc : r.cancelled = false) : r.pending = [] := by
  rcases h.waiting hs with hp | hw | hcancel
  · exact hp
  · have hpos := q.window_pos
    rw [inFlight, hr, hf, List.length_nil, List.length_nil] at hw
    omega
  · rw [hc] at hcancel
    cases hcancel

theorem Invariant.cancel {q : Request} {r : Run} (h : Invariant q r) :
    Invariant q { r with cancelled := true } where
  loading := h.loading
  order := h.order
  conserved := h.conserved
  results j hj := (h.results j hj).imp_right fun hr => ⟨hr.1, rfl⟩
  window := h.window
  waiting _ := .inr (.inr rfl)
  completed := h.completed
  failed failure hf := (h.failed failure hf).imp_left fun hc => ⟨hc.1, rfl⟩

theorem Invariant.finishWith_error {q : Request} {r : Run} (h : Invariant q r)
    {failure : Failure} (hf : failure = .cancelled ∧ r.cancelled ∨
      ∃ error, failure = .feedback error ∧ q.feedback q.feedbackQuery = .error error) :
    Invariant q (r.finishWith (.error failure)) where
  loading hs := by cases hs
  order hs := by rcases hs with hs | hs <;> cases hs
  conserved := h.conserved
  results := h.results
  window := h.window
  waiting hs := by cases hs
  completed _ hs := by cases hs
  failed failure' hs := by
    cases hs
    exact hf

theorem Invariant.load {q : Request} {r : Run} (h : Invariant q r) (hs : r.stage = .loading) :
    Invariant q { r with stage := .filling, pending := q.lookups } where
  loading hs' := by cases hs'
  order _ := by
    show r.spawned ++ q.lookups = q.lookups
    rw [(h.loading hs).2, List.nil_append]
  conserved := h.conserved
  results := h.results
  window := h.window
  waiting hs' := by cases hs'
  completed _ hs' := by cases hs'
  failed _ hs' := by cases hs'

theorem Invariant.spawn {q : Request} {r : Run} (h : Invariant q r) {p : Pair} {rest : List Pair}
    (hs : r.stage = .filling) (hp : r.pending = p :: rest) (hw : r.inFlight < q.window) :
    Invariant q (r.spawn p rest) where
  loading hs' := by
    rw [show (r.spawn p rest).stage = r.stage from rfl, hs] at hs'
    cases hs'
  order _ := by
    have horder := h.order (.inl hs)
    rw [hp] at horder
    show (r.spawned ++ [p]) ++ rest = q.lookups
    rw [List.append_assoc, List.singleton_append, horder]
  conserved := by
    show (r.spawned ++ [p]).Perm ((r.running ++ [p]) ++ (r.joined ++ r.finished).map (·.1))
    rw [List.append_assoc]
    refine (h.conserved.append_right [p]).trans ?_
    rw [List.append_assoc]
    exact List.perm_append_comm.append_left r.running
  results := h.results
  window := by
    rw [inFlight] at hw
    simp only [inFlight, Run.spawn, List.length_append, List.length_singleton]
    omega
  waiting hs' := by
    rw [show (r.spawn p rest).stage = r.stage from rfl, hs] at hs'
    cases hs'
  completed _ hs' := by
    rw [show (r.spawn p rest).stage = r.stage from rfl, hs] at hs'
    cases hs'
  failed _ hs' := by
    rw [show (r.spawn p rest).stage = r.stage from rfl, hs] at hs'
    cases hs'

theorem Invariant.wait {q : Request} {r : Run} (h : Invariant q r) (hs : r.stage = .filling)
    (hp : r.pending = [] ∨ q.window ≤ r.inFlight ∨ r.cancelled) :
    Invariant q { r with stage := .joining } where
  loading hs' := by cases hs'
  order _ := h.order (.inl hs)
  conserved := h.conserved
  results := h.results
  window := h.window
  waiting _ := hp
  completed _ hs' := by cases hs'
  failed _ hs' := by cases hs'

theorem Invariant.collect {q : Request} {r : Run} (h : Invariant q r) {j : Pair × Result}
    {rest : List (Pair × Result)} (hs : r.stage = .joining) (hf : r.finished = j :: rest) :
    Invariant q { r with stage := .filling, finished := rest, joined := r.joined ++ [j] } := by
  have hlist : r.joined ++ r.finished = (r.joined ++ [j]) ++ rest := by simp [hf]
  exact {
    loading := fun hs' => by cases hs'
    order := fun _ => h.order (.inr hs)
    conserved := by
      have := h.conserved
      rwa [hlist] at this
    results := by
      have := h.results
      rwa [hlist] at this
    window := by
      have := h.window
      rw [inFlight, hf, List.length_cons] at this
      show r.running.length + rest.length ≤ q.window
      omega
    waiting := fun hs' => by cases hs'
    completed := fun _ hs' => by cases hs'
    failed := fun _ hs' => by cases hs' }

theorem Invariant.complete {q : Request} {r : Run} (h : Invariant q r) (hs : r.stage = .joining)
    (hf : r.finished = []) (hr : r.running = []) (hc : r.cancelled = false) :
    Invariant q (r.finishWith (.ok (q.candidates r.joined))) where
  loading hs' := by cases hs'
  order hs' := by rcases hs' with hs' | hs' <;> cases hs'
  conserved := h.conserved
  results := h.results
  window := h.window
  waiting hs' := by cases hs'
  completed set hset := by
    have hp := h.pending_eq_nil hs hf hr hc
    have horder := h.order (.inr hs)
    rw [hp, List.append_nil] at horder
    refine ⟨horder, hp, hr, hf, ?_, fun j hj => ?_⟩
    · cases hset
      rfl
    · rcases h.results j (List.mem_append_left _ hj) with hj | ⟨-, hcancel⟩
      · exact hj
      · rw [hc] at hcancel
        cases hcancel
  failed _ hs' := by cases hs'

theorem Invariant.finish {q : Request} {r : Run} (h : Invariant q r) {place : Nat} {p : Pair}
    {result : Result} (hp : r.running[place]? = some p)
    (hr : result = q.resultOf p ∨ result = .cancelled ∧ r.cancelled) :
    Invariant q { r with
      running := r.running.eraseIdx place, finished := r.finished ++ [(p, result)] } := by
  obtain ⟨hlt, hget⟩ := List.getElem?_eq_some_iff.1 hp
  have hperm : (p :: r.running.eraseIdx place).Perm r.running := by
    have := List.getElem_cons_eraseIdx_perm hlt
    rwa [hget] at this
  have hlen : (r.running.eraseIdx place).length + 1 = r.running.length := hperm.length_eq
  have hflight : (r.running.eraseIdx place).length + (r.finished ++ [(p, result)]).length =
      r.inFlight := by
    rw [inFlight, List.length_append, List.length_singleton]
    omega
  exact {
    loading := h.loading
    order := h.order
    conserved := by
      refine h.conserved.trans ?_
      have hmap : (r.joined ++ (r.finished ++ [(p, result)])).map (·.1) =
          (r.joined ++ r.finished).map (·.1) ++ [p] := by simp
      show (r.running ++ (r.joined ++ r.finished).map (·.1)).Perm
        (r.running.eraseIdx place ++ (r.joined ++ (r.finished ++ [(p, result)])).map (·.1))
      rw [hmap, ← List.append_assoc]
      exact (hperm.symm.append_right _).trans (List.perm_append_singleton p _).symm
    results := by
      intro j hj
      rw [← List.append_assoc] at hj
      rcases List.mem_append.1 hj with hj | hj
      · exact h.results j hj
      · rw [List.mem_singleton.1 hj]
        exact hr
    window := Nat.le_trans (Nat.le_of_eq hflight) h.window
    waiting := fun hs => (h.waiting hs).imp_right
      (Or.imp_left fun hw => Nat.le_trans hw (Nat.le_of_eq hflight.symm))
    completed := by
      intro set hs
      obtain ⟨-, -, hnil, -⟩ := h.completed set hs
      rw [hnil] at hlt
      exact absurd hlt (Nat.not_lt_zero _)
    failed := h.failed }

theorem Invariant.move {q : Request} {r r' : Run} {e : Event} (h : Invariant q r)
    (hm : Move q r e r') : Invariant q r' := by
  cases hm with
  | stay => exact h
  | cancel => exact h.cancel
  | abandon _ _ _ hc => exact h.finishWith_error (.inl ⟨rfl, hc⟩)
  | fail error _ _ hq => exact h.finishWith_error (.inr ⟨error, rfl, hq⟩)
  | load _ hs _ _ => exact h.load hs
  | spawn p rest hs hp hw _ => exact h.spawn hs hp hw
  | wait hs hp => exact h.wait hs hp
  | collect j rest hs hf => exact h.collect hs hf
  | giveUp _ _ _ hc => exact h.finishWith_error (.inl ⟨rfl, hc⟩)
  | complete hs hf hr hc => exact h.complete hs hf hr hc
  | finish place noticed p result hp hr => exact h.finish hp hr

theorem Invariant.steps {q : Request} {r : Run} (h : Invariant q r) (es : List Event) :
    Invariant q (r.steps q es) := by
  induction es generalizing r with
  | nil => exact h
  | cons e es ih => exact ih (h.move (move_step q r e))

/-- The invariant holds after any events. -/
theorem invariant_steps (q : Request) (es : List Event) : Invariant q (start.steps q es) :=
  (invariant_start q).steps es

/-! ## Progress -/

/-- A bound on how often a run can still change. Each lookup that is still to be started changes it
four times: it starts, finishes and is taken in, and then the run turns from filling to waiting. -/
def potential (q : Request) (r : Run) : Nat :=
  (match r.stage with
    | .loading => 4 * q.lookups.length + 3
    | .filling => 4 * r.pending.length + 2
    | .joining => 4 * r.pending.length + 1
    | .ended _ => 0)
  + 3 * r.running.length + 2 * r.finished.length + (!r.cancelled).toNat

theorem potential_start (q : Request) : potential q start = 4 * q.lookups.length + 4 := rfl

theorem Move.eq_or_potential_lt {q : Request} {r r' : Run} {e : Event} (hm : Move q r e r') :
    r' = r ∨ potential q r' < potential q r := by
  cases hm with
  | stay => exact .inl rfl
  | cancel =>
    cases hc : r.cancelled with
    | true => exact .inl (by rw [← hc])
    | false => exact .inr (by simp [potential, hc])
  | abandon _ _ hs _ => exact .inr (by simp only [potential, finishWith, hs]; omega)
  | fail error hs _ _ => exact .inr (by simp only [potential, finishWith, hs]; omega)
  | load events hs _ _ => exact .inr (by simp only [potential, hs]; omega)
  | spawn p rest hs hp _ _ =>
    refine .inr ?_
    simp only [potential, Run.spawn, hs, hp, List.length_append, List.length_cons, List.length_nil]
    omega
  | wait hs _ => exact .inr (by simp only [potential, hs]; omega)
  | collect j rest hs hf =>
    refine .inr ?_
    simp only [potential, hs, hf, List.length_cons]
    omega
  | giveUp hs _ _ _ => exact .inr (by simp only [potential, finishWith, hs]; omega)
  | complete hs _ _ _ => exact .inr (by simp only [potential, finishWith, hs]; omega)
  | finish place noticed p result hp _ =>
    refine .inr ?_
    obtain ⟨hlt, -⟩ := List.getElem?_eq_some_iff.1 hp
    simp only [potential, List.length_eraseIdx_of_lt hlt, List.length_append, List.length_singleton]
    omega

/-- Each of the events changes the run. -/
def Changing (q : Request) : Run → List Event → Prop
  | _, [] => True
  | r, e :: es => r.step q e ≠ r ∧ Changing q (r.step q e) es

theorem Changing.length_le {q : Request} {r : Run} {es : List Event} (h : Changing q r es) :
    es.length ≤ potential q r := by
  induction es generalizing r with
  | nil => exact Nat.zero_le _
  | cons e es ih =>
    obtain ⟨hne, hes⟩ := h
    have hlt := (move_step q r e).eq_or_potential_lt.resolve_left hne
    have := ih hes
    rw [List.length_cons]
    omega

/-- Nothing but a cancellation can change the run any more. -/
def Exhausted (q : Request) (r : Run) : Prop := ∀ e : Event, e ≠ .cancel → r.step q e = r

theorem stage_poll_ne (q : Request) (r : Run) : (poll q r true).stage ≠ .loading := by
  rw [poll, if_pos rfl, load]
  split
  · exact Stage.noConfusion
  · split <;> exact Stage.noConfusion

/-- A run past its feedback that does not advance has ended or waits for a running lookup. -/
theorem ended_or_waiting {q : Request} {r : Run} (hl : r.stage ≠ .loading)
    (h : r.step q .advance = r) :
    (∃ outcome, r.stage = .ended outcome) ∨
      r.stage = .joining ∧ r.finished = [] ∧ r.running ≠ [] := by
  cases hs : r.stage with
  | ended outcome => exact .inl ⟨outcome, rfl⟩
  | loading => exact absurd hs hl
  | filling =>
    simp only [step, hs, fill] at h
    split at h
    case h_1 p rest hp =>
      split at h
      · have := congrArg Run.pending h
        rw [hp] at this
        exact absurd this.symm (List.cons_ne_self p rest)
      · cases (congrArg Run.stage h).trans hs
    case h_2 => cases (congrArg Run.stage h).trans hs
  | joining =>
    simp only [step, hs, join] at h
    split at h
    case h_1 => cases (congrArg Run.stage h).trans hs
    case h_2 hf =>
      refine .inr ⟨rfl, hf, fun hr => ?_⟩
      rw [hr, List.isEmpty_nil, Bool.not_true, if_neg Bool.false_ne_true] at h
      have hended := (congrArg Run.stage h).trans hs
      split at hended <;> cases hended

theorem step_finish_ne {q : Request} {r : Run} (hr : r.running ≠ []) (noticed : Bool) :
    r.step q (.finish 0 noticed) ≠ r := by
  obtain ⟨p, ps, hr⟩ := List.exists_cons_of_ne_nil hr
  intro h
  have hrunning := congrArg Run.running h
  simp only [step, finishAt, hr, List.getElem?_cons_zero, List.eraseIdx_zero,
    List.tail_cons] at hrunning
  exact List.cons_ne_self p ps hrunning.symm

theorem Exhausted.ended {q : Request} {r : Run} (h : Exhausted q r) :
    ∃ outcome, r.stage = .ended outcome := by
  by_cases hs : r.stage = .loading
  · have hanswer := h .answer (fun he => by cases he)
    simp only [step, hs] at hanswer
    exact absurd ((congrArg Run.stage hanswer).trans hs) (stage_poll_ne q r)
  · rcases ended_or_waiting hs (h .advance (fun he => by cases he)) with hended | ⟨-, -, hr⟩
    · exact hended
    · exact absurd (h (.finish 0 false) (fun he => by cases he)) (step_finish_ne hr false)

/-- An ended run without running lookups is exhausted. -/
theorem exhausted_of_ended {q : Request} {r : Run} {outcome : Except Failure CandidateSet}
    (hs : r.stage = .ended outcome) (hr : r.running = []) : Exhausted q r := by
  intro e he
  cases e with
  | cancel => exact absurd rfl he
  | finish place noticed => rw [step, finishAt, hr, List.getElem?_nil]
  | answer => simp only [step, hs]
  | advance => simp only [step, hs]

/-- A run can always be brought to an end without a cancellation. -/
theorem exists_exhausted (q : Request) (r : Run) :
    ∃ es : List Event, .cancel ∉ es ∧ Exhausted q (r.steps q es) := by
  induction hn : potential q r using Nat.strongRecOn generalizing r with
  | ind n ih =>
    by_cases h : Exhausted q r
    · exact ⟨[], List.not_mem_nil, h⟩
    · rw [Exhausted] at h
      push Not at h
      obtain ⟨e, he, hne⟩ := h
      have hlt := (move_step q r e).eq_or_potential_lt.resolve_left hne
      obtain ⟨es, hes, hex⟩ := ih _ (hn ▸ hlt) _ rfl
      exact ⟨e :: es, by simp [he.symm, hes], hex⟩

theorem Move.cancelled {q : Request} {r r' : Run} {e : Event} (hm : Move q r e r')
    (he : e ≠ .cancel) : r'.cancelled = r.cancelled := by
  cases hm with
  | cancel => exact absurd rfl he
  | _ => rfl

theorem cancelled_steps {q : Request} {r : Run} {es : List Event} (hes : .cancel ∉ es) :
    (r.steps q es).cancelled = r.cancelled := by
  induction es generalizing r with
  | nil => rfl
  | cons e es ih =>
    rw [List.mem_cons, not_or] at hes
    exact (ih hes.2).trans ((move_step q r e).cancelled (Ne.symm hes.1))

/-! ## The order in which lookups finish -/

/-- The lookups that have finished, in the order of their ends. -/
def ended (r : Run) : List Pair := (r.joined ++ r.finished).map (·.1)

/-- The lookups that finish in the course of events, in the order of their ends. -/
def completions (q : Request) : Run → List Event → List Pair
  | _, [] => []
  | r, e :: es => r.completes e ++ completions q (r.step q e) es

theorem Move.ended {q : Request} {r r' : Run} {e : Event} (hm : Move q r e r') :
    r'.ended = r.ended ++ r.completes e := by
  cases hm with
  | stay _ hn => rw [hn, List.append_nil]
  | abandon _ he _ _ => rcases he with rfl | rfl <;> exact (List.append_nil _).symm
  | collect j rest _ hf => simp [Run.ended, completes, hf]
  | finish place noticed p result hp _ => simp [Run.ended, completes, hp]
  | _ => exact (List.append_nil _).symm

theorem ended_steps (q : Request) (r : Run) (es : List Event) :
    (r.steps q es).ended = r.ended ++ completions q r es := by
  induction es generalizing r with
  | nil => exact (List.append_nil _).symm
  | cons e es ih =>
    rw [completions, ← List.append_assoc, ← (move_step q r e).ended]
    exact ih (r.step q e)

end Run

end SimilarItems.Recommend
