import SimilarItems.Proofs.Recommend.Reference

/-!
# When the order of the lookups does not matter

With a window wide enough for all lookups, they can finish in any order. So the candidates of a
request are the same in all runs exactly if, for every label, the first items of the ranking are the
same for all orders of the lookups. Sums of binary64 numbers depend on the order of their addends,
and so there are requests for which they are not.
-/

namespace SimilarItems.Recommend

namespace Request

/-- The request with another bound on the lookups that may be under way. -/
def withWindow (q : Request) (n : Nat) : Request :=
  { q with settings := { q.settings with maxConcurrentLookups := n } }

/-- With a given bound on the lookups under way, a run that is not cancelled can end with a
candidate set. -/
def CanAnswer (q : Request) (n : Nat) (set : CandidateSet) : Prop :=
  ∃ es, .cancel ∉ es ∧ (Run.start.steps (q.withWindow n) es).outcome? = some (.ok set)

end Request

namespace Run

theorem completions_append (q : Request) (r : Run) (es₁ es₂ : List Event) :
    completions q r (es₁ ++ es₂) = completions q r es₁ ++ completions q (r.steps q es₁) es₂ := by
  induction es₁ generalizing r with
  | nil => rfl
  | cons e es₁ ih => rw [List.cons_append, completions, ih, completions, List.append_assoc]; rfl

/-- A run with room for all pending lookups can start them one after another. -/
theorem exists_spawned {q : Request} {r : Run} (hs : r.stage = .filling)
    (hc : r.cancelled = false) (hw : r.inFlight + r.pending.length ≤ q.window) :
    ∃ es, .cancel ∉ es ∧ completions q r es = [] ∧
      (r.steps q es).running = r.running ++ r.pending := by
  induction hp : r.pending generalizing r with
  | nil => exact ⟨[], List.not_mem_nil, rfl, (List.append_nil _).symm⟩
  | cons p rest ih =>
    rw [hp, List.length_cons] at hw
    have hstep : r.step q .advance = r.spawn p rest := by
      have hlt : (decide (r.inFlight < q.window) && !r.cancelled) = true := by
        rw [hc, Bool.not_false, Bool.and_true, decide_eq_true_iff]
        omega
      simp only [step, hs, fill, hp, hlt, if_true]
    have hflight : (r.spawn p rest).inFlight = r.inFlight + 1 := by
      simp only [inFlight, spawn, List.length_append, List.length_singleton]
      omega
    have hroom : (r.spawn p rest).inFlight + (r.spawn p rest).pending.length ≤ q.window := by
      rw [hflight, show (r.spawn p rest).pending = rest from rfl]
      omega
    obtain ⟨es, hes, hcompletions, hrunning⟩ := ih (r := r.spawn p rest) hs hc hroom rfl
    refine ⟨.advance :: es, by simp [hes], ?_, ?_⟩
    · rw [completions, hstep, hcompletions]
      rfl
    · rw [steps, List.foldl_cons, hstep]
      refine hrunning.trans ?_
      show (r.running ++ [p]) ++ rest = r.running ++ p :: rest
      rw [List.append_assoc, List.singleton_append]

/-- Running lookups can finish in any order. -/
theorem exists_finished {q : Request} {r : Run} {order : List Pair}
    (h : order.Perm r.running) : ∃ es, .cancel ∉ es ∧ completions q r es = order := by
  induction order generalizing r with
  | nil => exact ⟨[], List.not_mem_nil, rfl⟩
  | cons p order ih =>
    obtain ⟨place, hplace⟩ := List.mem_iff_getElem?.1 (h.subset List.mem_cons_self)
    obtain ⟨hlt, hget⟩ := List.getElem?_eq_some_iff.1 hplace
    have herase : order.Perm (r.running.eraseIdx place) := by
      have := List.getElem_cons_eraseIdx_perm hlt
      rw [hget] at this
      exact (h.trans this.symm).cons_inv
    have hrunning : (r.step q (.finish place false)).running = r.running.eraseIdx place := by
      rw [step, finishAt, hplace]
    obtain ⟨es, hes, hcompletions⟩ := ih (hrunning ▸ herase)
    refine ⟨.finish place false :: es, by simp [hes], ?_⟩
    rw [completions, hcompletions, completes, hplace, Option.toList_some, List.singleton_append]

/-- With room for all lookups, every order of them is one in which they can finish. -/
theorem exists_completions {q : Request} {events : List Feedback} {order : List Pair}
    (hq : q.feedback q.feedbackQuery = .ok events) (hw : q.lookups.length ≤ q.window)
    (hp : order.Perm q.lookups) :
    ∃ es set, .cancel ∉ es ∧ (start.steps q es).outcome? = some (.ok set) ∧
      completions q start es = order := by
  have hload : start.step q .answer = { start with stage := .filling, pending := q.lookups } := by
    rw [Request.lookups_eq hq]
    simp only [step, start, poll, load, hq]
    rfl
  obtain ⟨es₁, hes₁, hcompletions₁, hrunning⟩ :=
    exists_spawned (r := start.step q .answer) (q := q) (by rw [hload]) (by rw [hload]; rfl)
      (by rw [hload, inFlight]; simpa [start] using hw)
  have hfirst : completions q start (.answer :: es₁) = [] := by
    rw [completions, hcompletions₁]
    rfl
  have hall : (start.steps q (.answer :: es₁)).running = q.lookups := by
    refine hrunning.trans ?_
    rw [hload]
    rfl
  obtain ⟨es₂, hes₂, hcompletions₂⟩ :=
    exists_finished (q := q) (r := start.steps q (.answer :: es₁)) (hall ▸ hp)
  obtain ⟨es₃, hes₃, hex⟩ := exists_exhausted q (start.steps q ((.answer :: es₁) ++ es₂))
  have hsplit : start.steps q (((.answer :: es₁) ++ es₂) ++ es₃) =
      (start.steps q ((.answer :: es₁) ++ es₂)).steps q es₃ := List.foldl_append
  have hcancel : .cancel ∉ ((.answer :: es₁) ++ es₂) ++ es₃ := by simp [hes₁, hes₂, hes₃]
  obtain ⟨outcome, hs⟩ := hex.ended
  obtain ⟨set, hset⟩ := exists_candidates hq hcancel (hsplit ▸ hs)
  have horder : completions q start (((.answer :: es₁) ++ es₂) ++ es₃) =
      order ++ completions q (start.steps q ((.answer :: es₁) ++ es₂)) es₃ := by
    rw [completions_append, completions_append, hfirst, hcompletions₂, List.nil_append]
  -- All lookups have finished by then, so none is left for the last events.
  have hnil : completions q (start.steps q ((.answer :: es₁) ++ es₂)) es₃ = [] := by
    have hlen := (eq_answerFor_of_ended hset).1.length_eq
    rw [horder, List.length_append, hp.length_eq] at hlen
    exact List.eq_nil_of_length_eq_zero (by omega)
  exact ⟨_, set, hcancel, hset, by rw [horder, hnil, List.append_nil]⟩

end Run

namespace Request

theorem CanAnswer.exists_order {q : Request} {n : Nat} {set : CandidateSet}
    (h : q.CanAnswer n set) : ∃ order, order.Perm q.lookups ∧ set = q.answerFor order := by
  obtain ⟨es, -, hset⟩ := h
  obtain ⟨hp, heq⟩ := Run.eq_answerFor_of_ended hset
  exact ⟨_, hp, heq⟩

theorem exists_canAnswer {q : Request} {events : List Feedback} {order : List Pair}
    (hq : q.feedback q.feedbackQuery = .ok events) (hp : order.Perm q.lookups) :
    ∃ n, q.CanAnswer n (q.answerFor order) := by
  have hw : (q.withWindow q.lookups.length).lookups.length ≤
      (q.withWindow q.lookups.length).window := Nat.le_max_left _ _
  obtain ⟨es, set, hes, hset, rfl⟩ :=
    Run.exists_completions (q := q.withWindow q.lookups.length) hq hw hp
  refine ⟨q.lookups.length, es, hes, ?_⟩
  rw [hset, (Run.eq_answerFor_of_ended hset).2]
  rfl

theorem answerFor_eq_iff {q : Request} {order₁ order₂ : List Pair} :
    q.answerFor order₁ = q.answerFor order₂ ↔ ∀ label ∈ q.labels,
      (q.ranking label order₁).take q.settings.cacheSize =
        (q.ranking label order₂).take q.settings.cacheSize := by
  refine ⟨fun h label hlabel => ?_, fun h => ?_⟩
  · have hget := congrArg (·.get? label) h
    simp only [get?_answerFor, if_pos hlabel] at hget
    exact Option.some.inj hget
  · rw [answerFor, answerFor, List.map_congr_left fun label hlabel => by rw [h label hlabel]]

/-- A ranking depends on the order of the lookups only through the sums of the admitted items. -/
theorem ranking_eq_of_sum_eq {q : Request} {label : String} {order₁ order₂ : List Pair}
    (hp : order₁.Perm order₂)
    (hsum : ∀ item, q.admits item →
      Tally.sum q.settings.imageWeight (q.found label order₁) item =
        Tally.sum q.settings.imageWeight (q.found label order₂) item) :
    q.ranking label order₁ = q.ranking label order₂ := by
  have hfound : (q.found label order₁).Perm (q.found label order₂) := (hp.filterMap _).flatten
  have hitems : (Tally.items q.admits (q.found label order₁)).Perm
      (Tally.items q.admits (q.found label order₂)) := by
    rw [List.perm_ext_iff_of_nodup (Tally.nodup_items _ _) (Tally.nodup_items _ _)]
    intro item
    simp only [Tally.mem_items, hfound.mem_iff]
  rw [ranking, ranking, Tally.ranking, Tally.ranking]
  congr 1
  refine Score.sort_eq_of_perm ((hitems.map _).trans (.of_eq ?_))
  refine List.map_congr_left fun item hitem => ?_
  rw [hsum item ((Tally.mem_items q.admits).1 hitem).2]

/-- All runs of a request, with any bounds on the lookups under way, agree on the candidates exactly
if the first items of each ranking do not depend on the order of the lookups. That is so if the sums
that the ranking compares do not depend on it. -/
theorem canAnswer_unique_iff {q : Request} {events : List Feedback}
    (hq : q.feedback q.feedbackQuery = .ok events) :
    ((∀ n₁ n₂ set₁ set₂, q.CanAnswer n₁ set₁ → q.CanAnswer n₂ set₂ → set₁ = set₂) ↔
      ∀ label ∈ q.labels, ∀ order, order.Perm (q.pairs (events.map (·.item))) →
        (q.ranking label order).take q.settings.cacheSize =
          (q.ranking label (q.pairs (events.map (·.item)))).take q.settings.cacheSize) ∧
    ((∀ label ∈ q.labels, ∀ order, order.Perm (q.pairs (events.map (·.item))) →
        ∀ item, q.admits item →
          Tally.sum q.settings.imageWeight (q.found label order) item =
            Tally.sum q.settings.imageWeight
              (q.found label (q.pairs (events.map (·.item)))) item) →
      ∀ n₁ n₂ set₁ set₂, q.CanAnswer n₁ set₁ → q.CanAnswer n₂ set₂ → set₁ = set₂) := by
  rw [← lookups_eq hq]
  have hiff : (∀ n₁ n₂ set₁ set₂, q.CanAnswer n₁ set₁ → q.CanAnswer n₂ set₂ → set₁ = set₂) ↔
      ∀ label ∈ q.labels, ∀ order, order.Perm q.lookups →
        (q.ranking label order).take q.settings.cacheSize =
          (q.ranking label q.lookups).take q.settings.cacheSize := by
    refine ⟨fun h label hlabel order hp => ?_, fun h n₁ n₂ set₁ set₂ h₁ h₂ => ?_⟩
    · obtain ⟨n₁, h₁⟩ := exists_canAnswer hq hp
      obtain ⟨n₂, h₂⟩ := exists_canAnswer hq (List.Perm.refl q.lookups)
      exact answerFor_eq_iff.1 (h n₁ n₂ _ _ h₁ h₂) label hlabel
    · obtain ⟨order₁, hp₁, rfl⟩ := h₁.exists_order
      obtain ⟨order₂, hp₂, rfl⟩ := h₂.exists_order
      refine answerFor_eq_iff.2 fun label hlabel => ?_
      rw [h label hlabel order₁ hp₁, h label hlabel order₂ hp₂]
  refine ⟨hiff, fun hsum => hiff.2 fun label hlabel order hp => ?_⟩
  rw [ranking_eq_of_sum_eq hp (hsum label hlabel order hp)]

/-- Agreement is decided by the orders of the six lookups. -/
theorem canAnswer_unique_iff_threeSeeds :
    threeSeeds.feedback threeSeeds.feedbackQuery = .ok threeEvents ∧
    ((∀ n₁ n₂ set₁ set₂, threeSeeds.CanAnswer n₁ set₁ → threeSeeds.CanAnswer n₂ set₂ →
        set₁ = set₂) ↔
      ∀ label ∈ threeSeeds.labels, ∀ order, order.Perm (threeSeeds.pairs ["s1", "s2", "s3"]) →
        (threeSeeds.ranking label order).take 100 =
          (threeSeeds.ranking label (threeSeeds.pairs ["s1", "s2", "s3"])).take 100) := by
  have hfeedback : threeSeeds.feedback threeSeeds.feedbackQuery = .ok threeEvents := rfl
  exact ⟨hfeedback, (canAnswer_unique_iff hfeedback).1⟩

/-- One lookup after another, a tenth and two and three tenths make more than six tenths; in the
opposite order, which is possible with six at a time, they make six tenths. -/
theorem not_canAnswer_unique :
    ¬ ∀ (q : Request) (events : List Feedback), q.feedback q.feedbackQuery = .ok events →
      ∀ n₁ n₂ set₁ set₂, q.CanAnswer n₁ set₁ → q.CanAnswer n₂ set₂ → set₁ = set₂ := by
  intro h
  have hfirst : threeSeeds.CanAnswer 1 ⟨⟨[("", ["b", "a"]), ("c", ["a", "b"])]⟩⟩ :=
    ⟨.answer :: (List.replicate 7 [.advance, .advance, .finish 0 false, .advance]).flatten,
      by decide, by decide +kernel⟩
  have hlast : threeSeeds.CanAnswer 6 ⟨⟨[("", ["a", "b"]), ("c", ["a", "b"])]⟩⟩ :=
    ⟨Run.sixLookups [5, 4, 3, 2, 1, 0], by decide, by decide +kernel⟩
  have := h threeSeeds threeEvents rfl 1 6 _ _ hfirst hlast
  revert this
  decide

end Request

end SimilarItems.Recommend
