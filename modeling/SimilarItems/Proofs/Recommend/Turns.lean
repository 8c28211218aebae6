import Mathlib.Logic.Function.Iterate
import SimilarItems.Proofs.Recommend.Cancellation
import SimilarItems.Recommend.Turns

/-!
# Runs by turns end

A run by turns is one of the ways in which a run can go, and it has ended when its turns are over:
within its bound a run settles, so that it has ended or waits for lookups under way, and each turn
in which it waits lets at least one of the lookups finish that are left.
-/

namespace SimilarItems.Recommend

open Function (iterate_fixed iterate_succ_apply iterate_succ_apply')

namespace Run

/-! ## What advances leave to do -/

/-- A bound on how often a run can advance before it has ended or waits for a running lookup. Each
pending lookup is started, and after each finished one the run turns from filling to waiting
again. -/
def unsettled (r : Run) : Nat :=
  match r.stage with
  | .filling => r.pending.length + 2 * r.finished.length + 2
  | .joining => r.pending.length + 2 * r.finished.length + 1
  | _ => 0

/-- The number of lookups that have not finished. -/
def outstanding (r : Run) : Nat := r.pending.length + r.running.length

variable {q : Request} {r r' : Run} {e : Event}

theorem Move.eq_or_unsettled_lt (hm : Move q r .advance r') (hl : r.stage ≠ .loading) :
    r' = r ∨ r'.unsettled < r.unsettled := by
  cases hm with
  | stay => exact .inl rfl
  | abandon _ _ hs _ => exact absurd hs hl
  | spawn p rest hs hp _ _ =>
    exact .inr (by simp only [unsettled, Run.spawn, hs, hp, List.length_cons]; omega)
  | wait hs _ => exact .inr (by simp only [unsettled, hs]; omega)
  | collect j rest hs hf =>
    exact .inr (by simp only [unsettled, hs, hf, List.length_cons]; omega)
  | giveUp hs _ _ _ => exact .inr (by simp only [unsettled, finishWith, hs]; omega)
  | complete hs _ _ _ => exact .inr (by simp only [unsettled, finishWith, hs]; omega)

/-- Past the feedback, no event adds to the lookups that have not finished. -/
theorem Move.outstanding_le (hm : Move q r e r') (hl : r.stage ≠ .loading) :
    r'.stage ≠ .loading ∧ r'.outstanding ≤ r.outstanding := by
  cases hm with
  | stay => exact ⟨hl, le_rfl⟩
  | cancel => exact ⟨hl, le_rfl⟩
  | abandon _ _ hs _ => exact absurd hs hl
  | fail _ hs _ _ => exact absurd hs hl
  | load _ hs _ _ => exact absurd hs hl
  | wait _ _ => exact ⟨Stage.noConfusion, le_rfl⟩
  | collect _ _ _ _ => exact ⟨Stage.noConfusion, le_rfl⟩
  | giveUp _ _ _ _ => exact ⟨Stage.noConfusion, le_rfl⟩
  | complete _ _ _ _ => exact ⟨Stage.noConfusion, le_rfl⟩
  | spawn p rest _ hp _ _ =>
    refine ⟨hl, ?_⟩
    simp only [outstanding, Run.spawn, hp, List.length_append, List.length_cons, List.length_nil]
    omega
  | finish place noticed p result hp _ =>
    obtain ⟨hlt, -⟩ := List.getElem?_eq_some_iff.1 hp
    refine ⟨hl, ?_⟩
    simp only [outstanding, List.length_eraseIdx_of_lt hlt]
    omega

end Run

namespace Turns

open Run

variable {q : Request} {c : Cancellation} {r : Run} {P : Run → Prop}

/-! ## Turns are events -/

/-- A property of runs that all events keep, a cancellation apart if none is due. -/
def Kept (q : Request) (c : Cancellation) (P : Run → Prop) : Prop :=
  ∀ r e, (c = .never → e ≠ .cancel) → P r → P (r.step q e)

theorem Kept.advance (h : Kept q c P) (hr : P r) : P (advance q c r) := by
  have hnext : P (r.step q .advance) := h r .advance (fun _ he => by cases he) hr
  cases c with
  | onAvailability item =>
    rw [Turns.advance]
    split
    · exact h _ .cancel nofun hnext
    · exact hnext
  | _ => exact hnext

theorem Kept.finishFirst (h : Kept q c P) (hr : P r) : P (finishFirst q c r) := by
  refine h _ (.finish 0 true) (fun _ he => by cases he) ?_
  split
  · rename_i hc
    subst hc
    exact h r .cancel nofun hr
  · exact hr

theorem settle_eq_iterate (q : Request) (c : Cancellation) (r : Run) :
    settle q c r = (Turns.advance q c)^[stepBound r] r := by
  rw [settle, List.foldl_const, List.length_range]

theorem finishAll_eq_iterate (q : Request) (c : Cancellation) (r : Run) :
    finishAll q c r = (Turns.finishFirst q c)^[r.running.length] r := by
  rw [finishAll, List.foldl_const]

theorem run_eq_iterate (q : Request) (c : Cancellation) :
    run q c = (turn q c)^[(load q c).1.pending.length + 2] (load q c).1 := by
  rw [run, List.foldl_const, List.length_range]

theorem Kept.settle (h : Kept q c P) (hr : P r) : P (settle q c r) := by
  rw [settle_eq_iterate]
  exact Function.Iterate.rec P hr (fun _ => h.advance) _

theorem Kept.finishAll (h : Kept q c P) (hr : P r) : P (finishAll q c r) := by
  rw [finishAll_eq_iterate]
  exact Function.Iterate.rec P hr (fun _ => h.finishFirst) _

theorem Kept.turn (h : Kept q c P) (hr : P r) : P (turn q c r) := h.finishAll (h.settle hr)

/-- A run that events lead to from its start, none of them a cancellation if none is due. -/
def Reached (q : Request) (c : Cancellation) (r : Run) : Prop :=
  ∃ es, (c = .never → .cancel ∉ es) ∧ r = start.steps q es

theorem kept_reached : Kept q c (Reached q c) := by
  rintro _ e he ⟨es, hes, rfl⟩
  refine ⟨es ++ [e], fun hc => ?_, (steps_append q start es [e]).symm⟩
  simp [hes hc, (he hc).symm]

theorem kept_ended (q : Request) (c : Cancellation) (outcome : Except Failure CandidateSet) :
    Kept q c fun r => r.stage = .ended outcome :=
  fun r e _ hs => (move_step q r e).stage_ended hs

theorem kept_outstanding (q : Request) (c : Cancellation) (n : Nat) :
    Kept q c fun r => r.stage ≠ .loading ∧ r.outstanding ≤ n := by
  rintro r e - ⟨hl, hn⟩
  obtain ⟨hl', hle⟩ := (move_step q r e).outstanding_le hl
  exact ⟨hl', hle.trans hn⟩

theorem reached_load (q : Request) (c : Cancellation) : Reached q c (load q c).1 := by
  cases c with
  | before => exact ⟨[.cancel, .advance], nofun, rfl⟩
  | duringFeedback => exact ⟨[.answer, .cancel], nofun, rfl⟩
  | insteadOfFeedback => exact ⟨[.cancel, .advance], nofun, rfl⟩
  | _ => exact ⟨[.answer], fun _ => by simp, rfl⟩

/-! ## A turn brings the run forward -/

/-- A run at rest stays as it is, since nothing is asked about an item then. -/
theorem advance_of_rest (hl : r.stage ≠ .loading) (h : r.step q .advance = r) :
    Turns.advance q c r = r := by
  have hinquiries : inquiries q r = [] := by
    rw [inquiries]
    split
    · rename_i hs hf
      rcases ended_or_waiting hl h with ⟨outcome, hended⟩ | ⟨-, hnil, -⟩
      · cases hs.symm.trans hended
      · cases hf.symm.trans hnil
    · rfl
  cases c with
  | onAvailability item => rw [Turns.advance, hinquiries, h]; rfl
  | _ => exact h

theorem unsettled_advance (q : Request) (c : Cancellation) (r : Run) :
    (Turns.advance q c r).unsettled = (r.step q .advance).unsettled := by
  cases c with
  | onAvailability item =>
    rw [Turns.advance]
    split <;> rfl
  | _ => rfl

theorem unsettled_le_stepBound (r : Run) : r.unsettled ≤ stepBound r := by
  rw [unsettled, stepBound]
  split <;> omega

/-- A run past its feedback settles within its bound. -/
theorem step_advance_settle (hl : r.stage ≠ .loading) :
    (settle q c r).step q .advance = settle q c r := by
  have hrest (n : Nat) (r : Run) (hl : r.stage ≠ .loading) (hn : r.unsettled ≤ n) :
      ((Turns.advance q c)^[n] r).step q .advance = (Turns.advance q c)^[n] r := by
    induction n generalizing r with
    | zero => exact ((move_step q r .advance).eq_or_unsettled_lt hl).resolve_right (by omega)
    | succ n ih =>
      rcases (move_step q r .advance).eq_or_unsettled_lt hl with heq | hlt
      · rw [iterate_fixed (advance_of_rest hl heq), heq]
      · rw [iterate_succ_apply]
        refine ih _ ((kept_outstanding q c r.outstanding).advance ⟨hl, le_rfl⟩).1 ?_
        rw [unsettled_advance]
        omega
  rw [settle_eq_iterate]
  exact hrest _ r hl (unsettled_le_stepBound r)

theorem running_finishFirst (q : Request) (c : Cancellation) (r : Run) :
    (finishFirst q c r).running = r.running.tail ∧ (finishFirst q c r).pending = r.pending := by
  have hfinish (r : Run) : (r.step q (.finish 0 true)).running = r.running.tail ∧
      (r.step q (.finish 0 true)).pending = r.pending := by
    rw [step, finishAt]
    cases hr : r.running with
    | nil => simp [hr]
    | cons p rest => simp
  rw [finishFirst]
  split <;> exact hfinish _

/-- All running lookups finish, and none is started. -/
theorem running_finishAll (q : Request) (c : Cancellation) (r : Run) :
    (finishAll q c r).running = [] ∧ (finishAll q c r).pending = r.pending := by
  have hdrop (n : Nat) : ((Turns.finishFirst q c)^[n] r).running = r.running.drop n ∧
      ((Turns.finishFirst q c)^[n] r).pending = r.pending := by
    induction n with
    | zero => exact ⟨rfl, rfl⟩
    | succ n ih =>
      obtain ⟨hrunning, hpending⟩ := running_finishFirst q c ((Turns.finishFirst q c)^[n] r)
      rw [iterate_succ_apply', hrunning, hpending, ih.1, ih.2, List.tail_drop]
      exact ⟨rfl, rfl⟩
  have := hdrop r.running.length
  rwa [List.drop_length, ← finishAll_eq_iterate] at this

/-- After a turn the run has ended, or fewer lookups are left than before. -/
theorem ended_or_outstanding_lt (hl : r.stage ≠ .loading) :
    (∃ outcome, (turn q c r).stage = .ended outcome) ∨
      (turn q c r).outstanding < r.outstanding := by
  obtain ⟨hl', hle⟩ := (kept_outstanding q c r.outstanding).settle ⟨hl, le_rfl⟩
  rcases ended_or_waiting hl' (step_advance_settle hl) with ⟨outcome, hs⟩ | ⟨-, -, hr⟩
  · exact .inl ⟨outcome, (kept_ended q c outcome).finishAll hs⟩
  · have hpos := List.length_pos_of_ne_nil hr
    obtain ⟨hrunning, hpending⟩ := running_finishAll q c (settle q c r)
    refine .inr ?_
    rw [outstanding] at hle
    rw [turn, outstanding, hrunning, hpending, List.length_nil]
    omega

/-! ## The whole run -/

/-- More turns than lookups are left bring a run to its end. -/
theorem exists_ended_iterate_turn (n : Nat) (hl : r.stage ≠ .loading) (hn : r.outstanding < n) :
    ∃ outcome, ((turn q c)^[n] r).stage = .ended outcome := by
  induction n generalizing r with
  | zero => exact absurd hn (Nat.not_lt_zero _)
  | succ n ih =>
    rw [iterate_succ_apply]
    rcases ended_or_outstanding_lt hl with ⟨outcome, hs⟩ | hlt
    · exact ⟨outcome, Function.Iterate.rec _ hs (fun _ => (kept_ended q c outcome).turn) n⟩
    · exact ih ((kept_outstanding q c r.outstanding).turn ⟨hl, le_rfl⟩).1 (by omega)

/-- When the feedback has been asked for, the run waits for it no more, and no lookup is running. -/
theorem running_load (q : Request) (c : Cancellation) :
    (load q c).1.stage ≠ .loading ∧ (load q c).1.running = [] := by
  have hanswer : (start.step q .answer).stage ≠ .loading ∧ (start.step q .answer).running = [] := by
    rw [show start.step q .answer = Run.load q start from rfl, Run.load]
    split <;> exact ⟨Stage.noConfusion, rfl⟩
  cases c with
  | before => exact ⟨Stage.noConfusion, rfl⟩
  | insteadOfFeedback => exact ⟨Stage.noConfusion, rfl⟩
  | duringFeedback => exact hanswer
  | _ => exact hanswer

/-- A run by turns is one of the ways in which a run can go, and it has ended when its turns are
over. -/
theorem exists_steps_eq_run (q : Request) (c : Cancellation) :
    ∃ es outcome, (c = .never → .cancel ∉ es) ∧ run q c = start.steps q es ∧
      (run q c).outcome? = some outcome := by
  obtain ⟨hl, hr⟩ := running_load q c
  obtain ⟨es, hes, hrun⟩ : Reached q c (run q c) := by
    rw [run_eq_iterate]
    exact Function.Iterate.rec _ (reached_load q c) (fun _ => kept_reached.turn) _
  have hleft : (load q c).1.outstanding < (load q c).1.pending.length + 2 := by
    rw [outstanding, hr, List.length_nil]
    omega
  obtain ⟨outcome, hs⟩ := exists_ended_iterate_turn (q := q) (c := c) _ hl hleft
  rw [← run_eq_iterate] at hs
  exact ⟨es, outcome, hes, hrun, outcome_of_stage hs⟩

/-- Without a cancellation it ends with the candidates for the order in which its lookups finish. -/
theorem outcome_run_never {q : Request} {events : List Feedback}
    (hq : q.feedback q.feedbackQuery = .ok events) :
    ∃ order : List Pair, order.Perm (q.pairs (events.map (·.item))) ∧
      (run q .never).outcome? = some (.ok (q.answerFor order)) := by
  obtain ⟨es, outcome, hes, hrun, houtcome⟩ := exists_steps_eq_run q .never
  rw [hrun] at houtcome ⊢
  obtain ⟨set, hset⟩ := exists_candidates hq (hes rfl) (stage_of_outcome houtcome)
  obtain ⟨hperm, rfl⟩ := eq_answerFor_of_ended hset
  exact ⟨_, Request.lookups_eq hq ▸ hperm, hset⟩

end Turns

end SimilarItems.Recommend
