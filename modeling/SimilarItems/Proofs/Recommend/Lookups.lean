import Mathlib.Data.List.Count
import SimilarItems.Proofs.Recommend.CompletionOrder

/-!
# Which lookups a run makes

At any time no more lookups are under way than the settings allow, and at least one may be. A run
that is not cancelled ends when every label was looked up once for each feedback event, and what a
lookup brought was added to the tally of its own label and to no other.
-/

namespace SimilarItems.Recommend

namespace Request

theorem nodup_labels (q : Request) : q.labels.Nodup := nodup_eraseDups _

theorem mem_pairs {q : Request} {seeds : List String} {p : Pair} :
    p ∈ q.pairs seeds ↔ p.label ∈ q.labels ∧ p.seed ∈ seeds := by
  simp only [pairs, List.mem_flatMap, List.mem_map]
  constructor
  · rintro ⟨label, hlabel, seed, hseed, rfl⟩
    exact ⟨hlabel, hseed⟩
  · rintro ⟨hlabel, hseed⟩
    exact ⟨p.label, hlabel, p.seed, hseed, rfl⟩

theorem count_pairs_of_label (seeds : List String) (label label' seed : String) :
    (seeds.map fun s => (⟨label', s⟩ : Pair)).count ⟨label, seed⟩ =
      if label' = label then seeds.count seed else 0 := by
  by_cases h : label' = label
  · subst h
    rw [if_pos rfl]
    refine List.count_map_of_injective seeds (fun s => (⟨label', s⟩ : Pair)) ?_ seed
    intro a b hab
    exact congrArg Pair.seed hab
  · rw [if_neg h, List.count_eq_zero]
    intro hmem
    obtain ⟨s, -, hs⟩ := List.mem_map.1 hmem
    exact h (congrArg Pair.label hs)

/-- A label is paired with a seed as often as the seed occurs. -/
theorem count_pairs (q : Request) (seeds : List String) (label seed : String) :
    (q.pairs seeds).count ⟨label, seed⟩ = if label ∈ q.labels then seeds.count seed else 0 := by
  have hnodup := q.nodup_labels
  rw [pairs]
  generalize q.labels = labels at hnodup ⊢
  induction labels with
  | nil => rfl
  | cons l ls ih =>
    rw [List.nodup_cons] at hnodup
    rw [List.flatMap_cons, List.count_append, count_pairs_of_label, ih hnodup.2]
    by_cases hl : l = label
    · subst hl
      simp [hnodup.1]
    · simp [hl, Ne.symm hl]

/-- The questions of a request with given seeds, label by label. -/
def questions (q : Request) (seeds : List String) : List ListQuery :=
  q.labels.flatMap fun label =>
    seeds.map fun seed => ⟨"image-similar", seed, [label], 0, q.settings.numSimilar⟩

theorem map_listQuery_pairs (q : Request) (seeds : List String) :
    (q.pairs seeds).map q.listQuery = q.questions seeds := by
  simp only [pairs, questions, List.map_flatMap, List.map_map]
  rfl

/-! ## The tallies of the labels -/

/-- The tallies, each in the place of its label, after one more lookup was taken in: what it brought
is added in the place of its label. -/
def credit (q : Request) (tallies : List Tally) (j : Pair × Result) : List Tally :=
  match j.2 with
  | .answered (.scores scores) =>
    tallies.modify (q.labels.idxOf j.1.label)
      fun t => t.addList q.admits q.settings.imageWeight scores
  | _ => tallies

/-- The tallies, each in the place of its label, after lookups were taken in one after another. -/
def credits (q : Request) (joined : List (Pair × Result)) : List Tally :=
  joined.foldl q.credit (q.labels.map fun _ => .empty)

theorem tally_append_singleton (q : Request) (label : String) (joined : List (Pair × Result))
    (j : Pair × Result) :
    q.tally label (joined ++ [j]) =
      match j.2 with
      | .answered (.scores scores) =>
        if j.1.label = label then
          (q.tally label joined).addList q.admits q.settings.imageWeight scores
        else q.tally label joined
      | _ => q.tally label joined := by
  simp only [tally, Tally.ofLists, listsFor, List.filterMap_append, List.foldl_append]
  obtain ⟨p, result⟩ := j
  cases result with
  | cancelled => rfl
  | answered reply =>
    cases reply with
    | failed error => rfl
    | died => rfl
    | scores scores =>
      by_cases h : p.label = label
      · simp [h]
      · simp [h]

/-- Taking lookups in place by place, each tally holds what the lookups for its own label brought. -/
theorem credits_eq {q : Request} {joined : List (Pair × Result)}
    (h : ∀ j ∈ joined, j.1.label ∈ q.labels) :
    q.credits joined = q.labels.map fun label => q.tally label joined := by
  induction joined using List.reverseRecOn with
  | nil => rfl
  | append_singleton joined j ih =>
    rw [List.forall_mem_append, List.forall_mem_singleton] at h
    have hfold : q.credits (joined ++ [j]) = q.credit (q.credits joined) j := List.foldl_append
    rw [hfold, ih h.1, credit]
    simp only [tally_append_singleton]
    split
    case h_2 => rfl
    case h_1 scores _ =>
      refine List.ext_getElem (by simp) fun i hi hi' => ?_
      have hlt : i < q.labels.length := by simpa using hi'
      rw [List.getElem_modify, List.getElem_map, List.getElem_map]
      have hplace : q.labels.idxOf j.1.label = i ↔ j.1.label = q.labels[i] := by
        constructor
        · rintro rfl
          exact (List.getElem_idxOf hlt).symm
        · intro heq
          rw [heq]
          exact q.nodup_labels.idxOf_getElem i hlt
      simp only [hplace]

theorem candidates_eq_credits {q : Request} {joined : List (Pair × Result)}
    (h : ∀ j ∈ joined, j.1.label ∈ q.labels) :
    q.candidates joined =
      .ofLists (q.labels.zip ((q.credits joined).map (Tally.best q.settings.cacheSize))) := by
  rw [credits_eq h, List.map_map, candidates]
  congr 1
  induction q.labels with
  | nil => rfl
  | cons l ls ih => simp only [List.map_cons, List.zip_cons_cons, ih, Function.comp_apply]

end Request

namespace Run

/-- How a run keeps count of its lookups. -/
structure Scheduled (q : Request) (r : Run) : Prop where
  /-- A lookup that has started is running, or has finished, or was taken in, once. -/
  conserved : r.spawned.Perm (r.running ++ (r.finished ++ r.joined).map (·.1))
  /-- No more lookups have started and not been taken in than the settings allow. -/
  window : r.spawned.length ≤ r.joined.length + max 1 q.settings.maxConcurrentLookups

theorem Invariant.scheduled {q : Request} {r : Run} (h : Invariant q r) : Scheduled q r := by
  have hlength := h.conserved.length_eq
  have hwindow := h.window
  refine ⟨h.conserved.trans ((List.perm_append_comm.map _).append_left _), ?_⟩
  rw [inFlight, Request.window] at hwindow
  simp only [List.length_append, List.length_map] at hlength
  omega

/-- What a run has done for the given seeds when it ends with candidates. -/
structure LookedUp (q : Request) (seeds : List String) (r : Run) (set : CandidateSet) : Prop where
  /-- No lookup is left. -/
  rest : r.pending = [] ∧ r.running = [] ∧ r.finished = []
  /-- The labels differ from each other. -/
  labels : q.labels.Nodup ∧
    ∀ label, label ∈ q.labels ↔ label = CandidateSet.allCategories ∨ label ∈ q.categories
  /-- Each question was asked once for each label and each seed. -/
  asked : r.spawned.map q.listQuery = q.questions seeds
  /-- Each lookup was taken in once. -/
  once : ∀ label seed, (r.joined.map (·.1)).count ⟨label, seed⟩ =
    if label ∈ q.labels then seeds.count seed else 0
  /-- What was taken in is the answer to its question. -/
  replies : ∀ j ∈ r.joined, j.2 = .answered
    (q.neighbors ⟨"image-similar", j.1.seed, [j.1.label], 0, q.settings.numSimilar⟩)
  /-- The tally in the place of a label holds what was found for this label. -/
  credited : q.credits r.joined = q.labels.map fun label => q.gathered label (r.joined.map (·.1))
  /-- The candidates are the best of these tallies. -/
  candidates : set =
    .ofLists (q.labels.zip ((q.credits r.joined).map (Tally.best q.settings.cacheSize)))

theorem lookedUp_of_ended {q : Request} {events : List Feedback} {es : List Event}
    {set : CandidateSet} (hq : q.feedback q.feedbackQuery = .ok events)
    (hs : (start.steps q es).stage = .ended (.ok set)) :
    LookedUp q (events.map (·.item)) (start.steps q es) set := by
  have hinv := invariant_steps q es
  obtain ⟨hspawned, hpending, hrunning, hfinished, hset, hresults⟩ := hinv.completed set hs
  rw [Request.lookups_eq hq] at hspawned
  have hjoined : ((start.steps q es).joined.map (·.1)).Perm (q.pairs (events.map (·.item))) := by
    have := hinv.conserved
    rw [hspawned, hrunning, hfinished, List.nil_append, List.append_nil] at this
    exact this.symm
  have hlabels : ∀ j ∈ (start.steps q es).joined, j.1.label ∈ q.labels := by
    intro j hj
    exact (Request.mem_pairs.1 (hjoined.subset (List.mem_map_of_mem hj))).1
  refine ⟨⟨hpending, hrunning, hfinished⟩, ⟨q.nodup_labels, fun label => Request.mem_labels⟩, ?_,
    fun label seed => ?_, hresults, ?_, ?_⟩
  · rw [hspawned, Request.map_listQuery_pairs]
  · rw [hjoined.count_eq, Request.count_pairs]
  · rw [Request.credits_eq hlabels]
    refine List.map_congr_left fun label _ => ?_
    rw [Request.tally, Request.listsFor_eq_listsFound hresults]
    rfl
  · rw [hset, Request.candidates_eq_credits hlabels]

/-- At any time no more lookups are under way than the settings allow. A request that gets its
feedback and is not cancelled comes to an end, and then each label was looked up once for each
feedback event. -/
theorem scheduled_and_lookedUp (q : Request) :
    (∀ es, Scheduled q (start.steps q es)) ∧
    ∀ events, q.feedback q.feedbackQuery = .ok events →
      (∀ es, Changing q start es → es.length ≤ 4 * (q.questions (events.map (·.item))).length + 4) ∧
      (∀ es, .cancel ∉ es → ∃ rest, .cancel ∉ rest ∧ Exhausted q (start.steps q (es ++ rest))) ∧
      ∀ es, .cancel ∉ es → Exhausted q (start.steps q es) →
        ∃ set, (start.steps q es).outcome? = some (.ok set) ∧
          LookedUp q (events.map (·.item)) (start.steps q es) set := by
  refine ⟨fun es => (invariant_steps q es).scheduled, fun events hq => ⟨fun es hes => ?_,
    fun es _ => ?_, fun es hes hex => ?_⟩⟩
  · have hlength := hes.length_le
    rw [potential_start, Request.lookups_eq hq] at hlength
    rwa [← Request.map_listQuery_pairs, List.length_map]
  · obtain ⟨rest, hrest, hex⟩ := exists_exhausted q (start.steps q es)
    refine ⟨rest, hrest, ?_⟩
    rwa [steps, List.foldl_append]
  · obtain ⟨outcome, hs⟩ := hex.ended
    obtain ⟨set, hset⟩ := exists_candidates hq hes hs
    exact ⟨set, hset, lookedUp_of_ended hq (stage_of_outcome hset)⟩

/-- Events by which the six lookups for two labels and three seeds start one after another, each
when the one before was taken in. -/
def oneByOne : List Event :=
  .answer :: (List.replicate 7 [.advance, .advance, .finish 0 false, .advance]).flatten

/-- Settings that allow no lookup still let one at a time be under way. -/
theorem scheduled_and_lookedUp_oneByOne :
    Scheduled (.withWindow .threeSeeds 0) (start.steps (.withWindow .threeSeeds 0)
      (oneByOne.take 6)) ∧
    ∃ set, (start.steps (.withWindow .threeSeeds 0) oneByOne).outcome? = some (.ok set) ∧
      LookedUp (.withWindow .threeSeeds 0) ["s1", "s2", "s3"]
        (start.steps (.withWindow .threeSeeds 0) oneByOne) set := by
  have hfeedback : (Request.withWindow .threeSeeds 0).feedback
      (Request.withWindow .threeSeeds 0).feedbackQuery = .ok Request.threeEvents := rfl
  have hset : (start.steps (.withWindow .threeSeeds 0) oneByOne).outcome? =
      some (.ok ⟨⟨[("", ["b", "a"]), ("c", ["a", "b"])]⟩⟩) := by
    decide +kernel
  have hrunning : (start.steps (.withWindow .threeSeeds 0) oneByOne).running = [] := by
    decide +kernel
  have hex : Exhausted (.withWindow .threeSeeds 0)
      (start.steps (.withWindow .threeSeeds 0) oneByOne) :=
    exhausted_of_ended (stage_of_outcome hset) hrunning
  exact ⟨(scheduled_and_lookedUp (.withWindow .threeSeeds 0)).1 _,
    ((scheduled_and_lookedUp (.withWindow .threeSeeds 0)).2 _ hfeedback).2.2 oneByOne
      (by decide) hex⟩

end Run

end SimilarItems.Recommend
