import SimilarItems.Proofs.Recommend.Reference

/-!
# Cancelled requests

A request may be cancelled at any moment. If its run has not ended by then, it ends for the
cancellation: it starts no further lookup, waits for no service, and never ends with candidates. So a
run that ends with candidates has taken in the answers of all its lookups.
-/

namespace SimilarItems.Recommend

namespace Run

/-! ## How a run ends -/

/-- The event by which a run ends, and how it ends. -/
inductive Ending (q : Request) (r : Run) : Event → Except Failure CandidateSet → Prop where
  /-- The feedback service fails. -/
  | unanswered (error : ServiceError) (hs : r.stage = .loading) (hc : r.cancelled = false)
      (hq : q.feedback q.feedbackQuery = .error error) :
      Ending q r .answer (.error (.feedback error))
  /-- The cancellation is noticed before there is feedback. -/
  | abandoned (e : Event) (hs : r.stage = .loading) (hc : r.cancelled) :
      Ending q r e (.error .cancelled)
  /-- The cancellation is noticed when no lookup is under way any more. -/
  | givenUp (hs : r.stage = .joining) (hc : r.cancelled) : Ending q r .advance (.error .cancelled)
  /-- There are candidates. -/
  | completed (hs : r.stage = .joining) (hc : r.cancelled = false) :
      Ending q r .advance (.ok (q.candidates r.joined))

variable {q : Request} {r r' : Run} {e : Event} {es : List Event}

theorem Move.ending {outcome : Except Failure CandidateSet} (hm : Move q r e r')
    (hopen : ∀ outcome, r.stage ≠ .ended outcome) (h : r'.stage = .ended outcome) :
    Ending q r e outcome := by
  cases hm with
  | stay => exact absurd h (hopen outcome)
  | cancel => exact absurd h (hopen outcome)
  | spawn p rest hs hp hw hc => exact absurd h (hopen outcome)
  | finish place noticed p result hp hr => exact absurd h (hopen outcome)
  | load events hs hc hq => cases h
  | wait hs hp => cases h
  | collect j rest hs hf => cases h
  | abandon e _ hs hc =>
    cases h
    exact .abandoned e hs hc
  | fail error hs hc hq =>
    cases h
    exact .unanswered error hs hc hq
  | giveUp hs _ _ hc =>
    cases h
    exact .givenUp hs hc
  | complete hs _ _ hc =>
    cases h
    exact .completed hs hc

/-- A run that has ended stays as it ended. -/
theorem Move.stage_ended {outcome : Except Failure CandidateSet} (hm : Move q r e r')
    (hs : r.stage = .ended outcome) : r'.stage = .ended outcome := by
  cases hm with
  | stay => exact hs
  | cancel => exact hs
  | finish place noticed p result hp hr => exact hs
  | abandon e _ hs' _ => cases hs.symm.trans hs'
  | fail error hs' _ _ => cases hs.symm.trans hs'
  | load events hs' _ _ => cases hs.symm.trans hs'
  | spawn p rest hs' _ _ _ => cases hs.symm.trans hs'
  | wait hs' _ => cases hs.symm.trans hs'
  | collect j rest hs' _ => cases hs.symm.trans hs'
  | giveUp hs' _ _ _ => cases hs.symm.trans hs'
  | complete hs' _ _ _ => cases hs.symm.trans hs'

theorem stage_steps_ended {outcome : Except Failure CandidateSet}
    (hs : r.stage = .ended outcome) (es : List Event) : (r.steps q es).stage = .ended outcome := by
  induction es generalizing r with
  | nil => exact hs
  | cons e es ih => exact ih ((move_step q r e).stage_ended hs)

/-- A run that ends does so by one of its events. -/
theorem exists_ending {outcome : Except Failure CandidateSet}
    (hopen : ∀ outcome, r.stage ≠ .ended outcome) (h : (r.steps q es).stage = .ended outcome) :
    ∃ before e after, es = before ++ e :: after ∧ Ending q (r.steps q before) e outcome ∧
      ((r.steps q before).step q e).stage = .ended outcome := by
  induction es generalizing r with
  | nil => exact absurd h (hopen outcome)
  | cons e es ih =>
    by_cases hended : ∃ outcome', (r.step q e).stage = .ended outcome'
    · obtain ⟨outcome', hs⟩ := hended
      have hstays : ((r.step q e).steps q es).stage = .ended outcome' := stage_steps_ended hs es
      cases h.symm.trans hstays
      exact ⟨[], e, es, rfl, (move_step q r e).ending hopen hs, hs⟩
    · obtain ⟨before, e', after, rfl, hending⟩ := ih (fun o ho => hended ⟨o, ho⟩) h
      exact ⟨e :: before, e', after, rfl, hending⟩

theorem exists_ending_start {outcome : Except Failure CandidateSet}
    (h : (start.steps q es).outcome? = some outcome) :
    ∃ before e after, es = before ++ e :: after ∧ Ending q (start.steps q before) e outcome ∧
      ((start.steps q before).step q e).stage = .ended outcome :=
  exists_ending (fun outcome hs => by cases hs) (stage_of_outcome h)

/-! ## After a cancellation -/

/-- A cancelled run stays cancelled and starts no lookup, and if it ends, it ends for the
cancellation. -/
theorem Move.of_cancelled (hm : Move q r e r') (hc : r.cancelled) :
    r'.cancelled ∧ r'.spawned = r.spawned ∧
      ∀ outcome, r'.stage = .ended outcome →
        r.stage = .ended outcome ∨ outcome = .error .cancelled := by
  have hnot (hc' : r.cancelled = false) : False := by
    rw [hc] at hc'
    cases hc'
  cases hm with
  | stay => exact ⟨hc, rfl, fun _ hs => .inl hs⟩
  | cancel => exact ⟨rfl, rfl, fun _ hs => .inl hs⟩
  | finish place noticed p result hp hr => exact ⟨hc, rfl, fun _ hs => .inl hs⟩
  | fail error hs hc' hq => exact (hnot hc').elim
  | load events hs hc' hq => exact (hnot hc').elim
  | spawn p rest hs hp hw hc' => exact (hnot hc').elim
  | complete hs hf hr hc' => exact (hnot hc').elim
  | wait hs hp => exact ⟨hc, rfl, fun _ hs' => by cases hs'⟩
  | collect j rest hs hf => exact ⟨hc, rfl, fun _ hs' => by cases hs'⟩
  | abandon e he hs _ =>
    refine ⟨hc, rfl, fun _ hs' => ?_⟩
    cases hs'
    exact .inr rfl
  | giveUp hs hf hr _ =>
    refine ⟨hc, rfl, fun _ hs' => ?_⟩
    cases hs'
    exact .inr rfl

theorem steps_of_cancelled (hc : r.cancelled) (es : List Event) :
    (r.steps q es).cancelled ∧ (r.steps q es).spawned = r.spawned ∧
      ∀ outcome, (r.steps q es).stage = .ended outcome →
        r.stage = .ended outcome ∨ outcome = .error .cancelled := by
  induction es generalizing r with
  | nil => exact ⟨hc, rfl, fun _ hs => .inl hs⟩
  | cons e es ih =>
    obtain ⟨hc', hspawned, hended⟩ := (move_step q r e).of_cancelled hc
    obtain ⟨hc'', hspawned', hended'⟩ := ih hc'
    refine ⟨hc'', hspawned'.trans hspawned, fun outcome hs => ?_⟩
    rcases hended' outcome hs with hs' | houtcome
    · exact hended outcome hs'
    · exact .inr houtcome

theorem steps_append (q : Request) (r : Run) (es₁ es₂ : List Event) :
    r.steps q (es₁ ++ es₂) = (r.steps q es₁).steps q es₂ := List.foldl_append

theorem cancelled_of_mem (h : .cancel ∈ es) : (r.steps q es).cancelled := by
  obtain ⟨before, after, rfl⟩ := List.mem_iff_append.1 h
  rw [steps_append]
  exact (steps_of_cancelled (r := (r.steps q before).step q .cancel) rfl after).1

/-- A cancelled run that has not ended can change although no service answers any more. -/
theorem exists_unaided (q : Request) (hc : r.cancelled)
    (hopen : ∀ outcome, r.stage ≠ .ended outcome) :
    ∃ e : Event, (e = .advance ∨ e = .finish 0 true) ∧ r.step q e ≠ r := by
  by_cases h : r.step q .advance = r
  · by_cases hl : r.stage = .loading
    · have hstage := congrArg Run.stage h
      simp only [step, hl, poll, hc, if_true] at hstage
      cases hstage
    · rcases ended_or_waiting hl h with ⟨outcome, hs⟩ | ⟨-, -, hr⟩
      · exact absurd hs (hopen outcome)
      · exact ⟨.finish 0 true, .inr rfl, step_finish_ne hr true⟩
  · exact ⟨.advance, .inl rfl, h⟩

/-- A cancelled run can be brought to its end although no service answers any more. -/
theorem exists_ended_unaided (q : Request) (hc : r.cancelled) :
    ∃ (es : List Event) (outcome : Except Failure CandidateSet),
      (∀ e ∈ es, e = .advance ∨ e = .finish 0 true) ∧ (r.steps q es).stage = .ended outcome := by
  induction hn : potential q r using Nat.strongRecOn generalizing r with
  | ind n ih =>
    by_cases hended : ∃ outcome, r.stage = .ended outcome
    · obtain ⟨outcome, hs⟩ := hended
      exact ⟨[], outcome, List.forall_mem_nil _, hs⟩
    · obtain ⟨e, he, hne⟩ := exists_unaided q hc fun outcome hs => hended ⟨outcome, hs⟩
      have hlt := (move_step q r e).eq_or_potential_lt.resolve_left hne
      have hc' := ((move_step q r e).of_cancelled hc).1
      obtain ⟨es, outcome, hes, hs⟩ := ih _ (hn ▸ hlt) hc' rfl
      exact ⟨e :: es, outcome, List.forall_mem_cons.2 ⟨he, hes⟩, hs⟩

theorem potential_steps_le (q : Request) (r : Run) (es : List Event) :
    potential q (r.steps q es) ≤ potential q r := by
  induction es generalizing r with
  | nil => exact Nat.le_refl _
  | cons e es ih =>
    refine Nat.le_trans (ih (r.step q e)) ?_
    rcases (move_step q r e).eq_or_potential_lt with heq | hlt
    · rw [heq]
    · exact Nat.le_of_lt hlt

/-- A run that has not ended when it is cancelled can only end for the cancellation. -/
theorem stage_of_cancel {rest : List Event} {outcome : Except Failure CandidateSet}
    (h : (start.steps q (es ++ .cancel :: rest)).stage = .ended outcome) :
    (start.steps q es).stage = .ended outcome ∨ outcome = .error .cancelled := by
  rw [steps_append] at h
  exact (steps_of_cancelled (r := (start.steps q es).step q .cancel) rfl rest).2.2 outcome h

/-- What has become of a run that was cancelled after the events `es` by the events `rest`. -/
structure Withdrawn (q : Request) (es rest : List Event) : Prop where
  /-- The request stays cancelled. -/
  cancelled : (start.steps q (es ++ .cancel :: rest)).cancelled
  /-- No lookup has started since. -/
  spawned : (start.steps q (es ++ .cancel :: rest)).spawned = (start.steps q es).spawned
  /-- If the run has ended, it failed: for the cancellation, or because the feedback service had
  failed before while the run was still waiting for it. -/
  outcome : ∀ outcome, (start.steps q (es ++ .cancel :: rest)).outcome? = some outcome →
    outcome = .error .cancelled ∨
      ∃ error before after, outcome = .error (.feedback error) ∧
        es = before ++ .answer :: after ∧
        (start.steps q before).stage = .loading ∧ q.feedback q.feedbackQuery = .error error
  /-- If it had not ended before, be it that it still waited for the feedback service, then it has
  failed for the cancellation. -/
  noticed : (start.steps q es).outcome? = none →
    ∀ outcome, (start.steps q (es ++ .cancel :: rest)).outcome? = some outcome →
      outcome = .error .cancelled
  /-- It cannot go on for ever. -/
  bounded : ∀ more, Changing q (start.steps q (es ++ .cancel :: rest)) more →
    more.length ≤ 4 * q.lookups.length + 4
  /-- When nothing can change it any more, it has failed. -/
  failed : Exhausted q (start.steps q (es ++ .cancel :: rest)) →
    ∃ failure, (start.steps q (es ++ .cancel :: rest)).outcome? = some (.error failure)
  /-- It can come to that although no service answers any more. -/
  unaided : ∃ more failure, (∀ e ∈ more, e = .advance ∨ e = .finish 0 true) ∧
    (start.steps q (es ++ .cancel :: rest ++ more)).outcome? = some (.error failure)

theorem exists_failure_of_cancel (hopen : ∀ set, (start.steps q es).outcome? ≠ some (.ok set))
    {rest : List Event} {outcome : Except Failure CandidateSet}
    (h : (start.steps q (es ++ .cancel :: rest)).stage = .ended outcome) :
    ∃ failure, (start.steps q (es ++ .cancel :: rest)).outcome? = some (.error failure) := by
  cases outcome with
  | error failure => exact ⟨failure, outcome_of_stage h⟩
  | ok set =>
    rcases stage_of_cancel h with hs | houtcome
    · exact absurd (outcome_of_stage hs) (hopen set)
    · cases houtcome

/-- A failure that is not for the cancellation was there before it. -/
theorem exists_unanswered_of_cancel (hopen : ∀ set, (start.steps q es).outcome? ≠ some (.ok set))
    {rest : List Event} {outcome : Except Failure CandidateSet}
    (h : (start.steps q (es ++ .cancel :: rest)).stage = .ended outcome) :
    outcome = .error .cancelled ∨
      ∃ error before after, outcome = .error (.feedback error) ∧
        es = before ++ .answer :: after ∧
        (start.steps q before).stage = .loading ∧ q.feedback q.feedbackQuery = .error error := by
  rcases stage_of_cancel h with hs | houtcome
  · obtain ⟨before, e, after, hes, hending, -⟩ := exists_ending_start (outcome_of_stage hs)
    cases hending with
    | unanswered error hs' _ hq => exact .inr ⟨error, before, after, rfl, hes, hs', hq⟩
    | abandoned e _ _ => exact .inl rfl
    | givenUp _ _ => exact .inl rfl
    | completed _ _ => exact absurd (outcome_of_stage hs) (hopen _)
  · exact .inl houtcome

theorem withdrawn_of_open (hopen : ∀ set, (start.steps q es).outcome? ≠ some (.ok set))
    (rest : List Event) : Withdrawn q es rest := by
  have hsteps : start.steps q (es ++ .cancel :: rest) =
      ((start.steps q es).step q .cancel).steps q rest := steps_append q start es (.cancel :: rest)
  obtain ⟨hcancelled, hspawned, -⟩ :=
    steps_of_cancelled (q := q) (r := (start.steps q es).step q .cancel) rfl rest
  rw [← hsteps] at hcancelled hspawned
  refine ⟨hcancelled, hspawned, fun outcome houtcome => ?_, fun hnone outcome houtcome => ?_,
    fun more hmore => ?_, fun hex => ?_, ?_⟩
  · exact exists_unanswered_of_cancel hopen (stage_of_outcome houtcome)
  · rcases stage_of_cancel (stage_of_outcome houtcome) with hs | hcancel
    · rw [outcome_of_stage hs] at hnone
      cases hnone
    · exact hcancel
  · have hle := potential_steps_le q start (es ++ .cancel :: rest)
    rw [potential_start] at hle
    exact hmore.length_le.trans hle
  · obtain ⟨outcome, hs⟩ := hex.ended
    exact exists_failure_of_cancel hopen hs
  · obtain ⟨more, outcome, hmore, hs⟩ := exists_ended_unaided q hcancelled
    rw [← steps_append, List.append_assoc, List.cons_append] at hs
    obtain ⟨failure, hfailed⟩ := exists_failure_of_cancel hopen hs
    exact ⟨more, failure, hmore, by rwa [List.append_assoc, List.cons_append]⟩

/-- A failure of the feedback service is not heard any more after a cancellation. -/
example : (start.steps { Request.threeSeeds with feedback := fun _ => .error (.query "down") }
    [.cancel, .answer]).outcome? = some (.error .cancelled) := by decide +kernel

/-! ## Runs that end with candidates -/

/-- A run that is past its feedback and has not failed got the feedback. -/
theorem Move.exists_feedback (hm : Move q r e r')
    (h : r.stage ≠ .loading → (∀ failure, r.stage ≠ .ended (.error failure)) →
      ∃ events, q.feedback q.feedbackQuery = .ok events) :
    r'.stage ≠ .loading → (∀ failure, r'.stage ≠ .ended (.error failure)) →
      ∃ events, q.feedback q.feedbackQuery = .ok events := by
  intro hl hf
  cases hm with
  | stay => exact h hl hf
  | cancel => exact h hl hf
  | finish place noticed p result hp hr => exact h hl hf
  | load events _ _ hq => exact ⟨events, hq⟩
  | abandon _ _ _ _ => exact absurd rfl (hf .cancelled)
  | fail error _ _ _ => exact absurd rfl (hf (.feedback error))
  | giveUp _ _ _ _ => exact absurd rfl (hf .cancelled)
  | spawn p rest hs _ _ _ => exact h (by simp [hs]) (by simp [hs])
  | wait hs _ => exact h (by simp [hs]) (by simp [hs])
  | collect j rest hs _ => exact h (by simp [hs]) (by simp [hs])
  | complete hs _ _ _ => exact h (by simp [hs]) (by simp [hs])

theorem exists_feedback (q : Request) (es : List Event) :
    (start.steps q es).stage ≠ .loading →
      (∀ failure, (start.steps q es).stage ≠ .ended (.error failure)) →
        ∃ events, q.feedback q.feedbackQuery = .ok events := by
  induction es using List.reverseRecOn with
  | nil => exact fun h => absurd rfl h
  | append_singleton es e ih =>
    rw [steps_append]
    exact (move_step q (start.steps q es) e).exists_feedback ih

/-- What a run that ended with candidates by the events `es` has behind it. -/
structure Fulfilled (q : Request) (es : List Event) (set : CandidateSet) : Prop where
  /-- The request was not cancelled when the run saw that no lookup was under way any more. -/
  check : ∃ before after, es = before ++ .advance :: after ∧ .cancel ∉ before ∧
    (start.steps q before).stage = .joining ∧ (start.steps q before).cancelled = false ∧
    (start.steps q (before ++ [.advance])).outcome? = some (.ok set)
  /-- All lookups for the feedback that the user gave were started. -/
  spawned : ∃ events, q.feedback q.feedbackQuery = .ok events ∧
    (start.steps q es).spawned = q.pairs (events.map (·.item))
  /-- All of them were taken in, once each. -/
  joined : ((start.steps q es).joined.map (·.1)).Perm (start.steps q es).spawned
  /-- None of them ended for a cancellation. -/
  results : ∀ j ∈ (start.steps q es).joined, j.2 ≠ .cancelled ∧ j.2 = q.resultOf j.1

theorem fulfilled_of_ok {set : CandidateSet}
    (h : (start.steps q es).outcome? = some (.ok set)) : Fulfilled q es set := by
  have hstage := stage_of_outcome h
  have hinv := invariant_steps q es
  obtain ⟨hspawned, -, hrunning, hfinished, -, hresults⟩ := hinv.completed set hstage
  refine ⟨?_, ?_, ?_, fun j hj => ?_⟩
  · obtain ⟨before, e, after, hes, hending, hended⟩ := exists_ending_start h
    cases hending with
    | completed hs hc =>
      refine ⟨before, after, hes, fun hmem => ?_, hs, hc, ?_⟩
      · rw [cancelled_of_mem hmem] at hc
        cases hc
      · rw [steps_append]
        exact outcome_of_stage hended
  · obtain ⟨events, hq⟩ := exists_feedback q es (by simp [hstage]) (by simp [hstage])
    exact ⟨events, hq, hspawned.trans (Request.lookups_eq hq)⟩
  · have := hinv.conserved
    rw [hrunning, hfinished, List.nil_append, List.append_nil] at this
    exact this.symm
  · rw [hresults j hj]
    exact ⟨fun heq => (by cases heq), rfl⟩

/-- A request that is cancelled before its run has answered comes to a failure and to no further
lookup, whatever happens then. A run that answers was not cancelled before and has all its lookups
behind it. -/
theorem withdrawn_and_fulfilled (q : Request) :
    (∀ es, (∀ set, (start.steps q es).outcome? ≠ some (.ok set)) → ∀ rest, Withdrawn q es rest) ∧
      ∀ es set, (start.steps q es).outcome? = some (.ok set) → Fulfilled q es set :=
  ⟨fun _ hopen rest => withdrawn_of_open hopen rest, fun _ _ h => fulfilled_of_ok h⟩

/-- Three of six lookups have started and one has finished when the request is cancelled; without a
cancellation all six are taken in. -/
theorem withdrawn_and_fulfilled_threeSeeds :
    (start.steps .threeSeeds (.answer :: List.replicate 3 .advance ++ [.finish 1 false])).outcome? =
      none ∧
    Withdrawn .threeSeeds (.answer :: List.replicate 3 .advance ++ [.finish 1 false])
      [.advance, .advance, .finish 0 true] ∧
    (start.steps .threeSeeds (sixLookups [0, 2, 1, 0, 1, 0])).outcome? =
      some (.ok ⟨⟨[("", ["b", "a"]), ("c", ["a", "b"])]⟩⟩) ∧
    Fulfilled .threeSeeds (sixLookups [0, 2, 1, 0, 1, 0])
      ⟨⟨[("", ["b", "a"]), ("c", ["a", "b"])]⟩⟩ := by
  have hopen : (start.steps .threeSeeds
      (.answer :: List.replicate 3 .advance ++ [.finish 1 false])).outcome? = none := by
    decide +kernel
  have hok : (start.steps .threeSeeds (sixLookups [0, 2, 1, 0, 1, 0])).outcome? =
      some (.ok ⟨⟨[("", ["b", "a"]), ("c", ["a", "b"])]⟩⟩) := by
    decide +kernel
  have hnever : ∀ set, (start.steps .threeSeeds
      (.answer :: List.replicate 3 .advance ++ [.finish 1 false])).outcome? ≠ some (.ok set) := by
    intro set hset
    rw [hopen] at hset
    cases hset
  exact ⟨hopen, (withdrawn_and_fulfilled .threeSeeds).1 _ hnever _, hok,
    (withdrawn_and_fulfilled .threeSeeds).2 _ _ hok⟩

end Run

end SimilarItems.Recommend
