import SimilarItems.Proofs.Recommend.Schedule
import SimilarItems.Proofs.Recommend.Tally

/-!
# What a recommendation answers

A request that is not cancelled and gets its feedback ends with candidates, however its lookups are
interleaved. For every label they are the first of the admitted items that successful lookups for
the label brought, ranked by the sums of their weighted scores in the order in which the lookups
finished.
-/

namespace SimilarItems.Recommend

namespace Request

theorem mem_labels {q : Request} {label : String} :
    label ∈ q.labels ↔ label = CandidateSet.allCategories ∨ label ∈ q.categories :=
  Recommend.mem_labels

/-- The lists that successful lookups for a label bring, in a given order of lookups. -/
def listsFound (q : Request) (label : String) (order : List Pair) : List (List Score) :=
  order.filterMap fun p =>
    if p.label = label then
      match q.neighbors (q.listQuery p) with
      | .scores scores => some scores
      | _ => none
    else none

/-- The scores that successful lookups for a label bring, in a given order of lookups. -/
def found (q : Request) (label : String) (order : List Pair) : List Score :=
  (q.listsFound label order).flatten

/-- The admitted items found for a label, ranked by what they gathered. -/
def ranking (q : Request) (label : String) (order : List Pair) : List String :=
  Tally.ranking q.admits q.settings.imageWeight (q.found label order)

/-- What items gathered for a label. -/
def gathered (q : Request) (label : String) (order : List Pair) : Tally :=
  Tally.ofLists q.admits q.settings.imageWeight (q.listsFound label order)

/-- A candidate set is the right answer to a request with given seeds whose lookups finish in a
given order. -/
structure IsAnswer (q : Request) (seeds : List String) (order : List Pair) (set : CandidateSet) :
    Prop where
  /-- Every label is looked up for every seed, once for each of its occurrences. -/
  lookups : order.Perm (q.pairs seeds)
  /-- There is a list for all categories together and one for each requested category. -/
  categories : ∀ category,
    category ∈ set.lists.keys ↔ category = CandidateSet.allCategories ∨ category ∈ q.categories
  /-- Each list holds the first items of the ranking. -/
  lists : ∀ category, category = CandidateSet.allCategories ∨ category ∈ q.categories →
    set.get? category = some ((q.ranking category order).take q.settings.cacheSize)
  /-- It is the same list in whatever order the gathered sums are gone through. -/
  selection : ∀ category (sums : List (String × Binary64)),
    sums.Perm (q.gathered category order).entries →
    ((TopK.empty q.settings.cacheSize).pushAll (sums.map fun e => ⟨e.1, e.2⟩)).items =
      (q.ranking category order).take q.settings.cacheSize

theorem listsFor_eq_listsFound {q : Request} {joined : List (Pair × Result)}
    (h : ∀ j ∈ joined, j.2 = q.resultOf j.1) (label : String) :
    listsFor label joined = q.listsFound label (joined.map (·.1)) := by
  rw [listsFor, listsFound, List.filterMap_map]
  refine List.filterMap_congr fun j hj => ?_
  rw [h j hj, resultOf, Function.comp_apply]
  cases q.neighbors (q.listQuery j.1) <;> simp

theorem lookup_map_pair {α : Type} (f : String → α) (keys : List String) (key : String) :
    (keys.map fun k => (k, f k)).lookup key = if key ∈ keys then some (f key) else none := by
  induction keys with
  | nil => rfl
  | cons k keys ih =>
    rw [List.map_cons, Keyed.lookup_cons_eq, ih]
    by_cases hk : key = k
    · rw [if_pos hk, if_pos (List.mem_cons.2 (.inl hk)), hk]
    · rw [if_neg hk]
      simp only [List.mem_cons, hk, false_or]

/-- The candidates for lookups that finish in a given order. -/
def answerFor (q : Request) (order : List Pair) : CandidateSet :=
  .ofLists (q.labels.map fun label => (label, (q.ranking label order).take q.settings.cacheSize))

theorem candidates_eq_answerFor {q : Request} {joined : List (Pair × Result)}
    (h : ∀ j ∈ joined, j.2 = q.resultOf j.1) :
    q.candidates joined = q.answerFor (joined.map (·.1)) := by
  rw [candidates, answerFor]
  congr 1
  refine List.map_congr_left fun label _ => ?_
  rw [tally, listsFor_eq_listsFound h, Tally.best_ofLists]
  rfl

theorem get?_answerFor (q : Request) (order : List Pair) (label : String) :
    (q.answerFor order).get? label =
      if label ∈ q.labels then some ((q.ranking label order).take q.settings.cacheSize)
      else none := by
  rw [answerFor, CandidateSet.ofLists, CandidateSet.get?, Keyed.get?_ofList, ← List.map_reverse,
    lookup_map_pair]
  simp only [List.mem_reverse]

theorem isAnswer_answerFor {q : Request} {seeds : List String} {order : List Pair}
    (hp : order.Perm (q.pairs seeds)) : q.IsAnswer seeds order (q.answerFor order) where
  lookups := hp
  categories category := by
    rw [Keyed.mem_keys, ← mem_labels]
    show ((q.answerFor order).get? category).isSome ↔ category ∈ q.labels
    rw [get?_answerFor]
    split <;> simp_all
  lists category hc := by rw [get?_answerFor, if_pos (mem_labels.2 hc)]
  selection category sums hsums := Tally.items_pushAll_of_perm _ _ _ _ hsums

end Request

namespace Run

theorem stage_of_outcome {r : Run} {outcome : Except Failure CandidateSet}
    (hs : r.outcome? = some outcome) : r.stage = .ended outcome := by
  rw [outcome?] at hs
  split at hs
  case h_1 outcome hstage => rw [hstage, Option.some.inj hs]
  case h_2 => cases hs

theorem outcome_of_stage {r : Run} {outcome : Except Failure CandidateSet}
    (hs : r.stage = .ended outcome) : r.outcome? = some outcome := by
  rw [outcome?, hs]

/-- A run that ended with candidates ended with those for the order in which its lookups
finished. -/
theorem eq_answerFor_of_ended {q : Request} {es : List Event} {set : CandidateSet}
    (hs : (start.steps q es).outcome? = some (.ok set)) :
    (completions q start es).Perm q.lookups ∧ set = q.answerFor (completions q start es) := by
  have hinv := invariant_steps q es
  obtain ⟨hspawned, -, hrunning, hfinished, rfl, hresults⟩ :=
    hinv.completed set (stage_of_outcome hs)
  have hcompletions : completions q start es = (start.steps q es).joined.map (·.1) := by
    have := ended_steps q start es
    rw [ended, hfinished, List.append_nil] at this
    exact this.symm
  have hperm : ((start.steps q es).joined.map (·.1)).Perm q.lookups := by
    have := hinv.conserved
    rw [hspawned, hrunning, hfinished, List.nil_append, List.append_nil] at this
    exact this.symm
  rw [hcompletions]
  exact ⟨hperm, Request.candidates_eq_answerFor hresults⟩

/-- A run with feedback that has ended and was not cancelled ended with candidates. -/
theorem exists_candidates {q : Request} {es : List Event} {events : List Feedback}
    {outcome : Except Failure CandidateSet} (hq : q.feedback q.feedbackQuery = .ok events)
    (hes : .cancel ∉ es) (hs : (start.steps q es).stage = .ended outcome) :
    ∃ set, (start.steps q es).outcome? = some (.ok set) := by
  have hcancelled : (start.steps q es).cancelled = false := cancelled_steps hes
  cases outcome with
  | ok set => exact ⟨set, by rw [outcome?, hs]⟩
  | error failure =>
    rcases (invariant_steps q es).failed failure hs with ⟨-, hc⟩ | ⟨error, -, herror⟩
    · rw [hcancelled] at hc
      cases hc
    · rw [hq] at herror
      cases herror

/-- A request that gets its feedback and is never cancelled ends with the right answer: it cannot go
on for ever, it can always go on until nothing is left to happen, and then it has answered. -/
theorem outcome_of_exhausted {q : Request} {events : List Feedback}
    (hq : q.feedback q.feedbackQuery = .ok events) :
    (∀ es, Changing q start es →
      es.length ≤ 4 * (q.pairs (events.map (·.item))).length + 4) ∧
    (∀ es, .cancel ∉ es → ∃ rest, .cancel ∉ rest ∧ Exhausted q (start.steps q (es ++ rest))) ∧
    ∀ es, .cancel ∉ es → Exhausted q (start.steps q es) →
      ∃ set, (start.steps q es).outcome? = some (.ok set) ∧
        q.IsAnswer (events.map (·.item)) (completions q start es) set := by
  have hlookups : q.lookups = q.pairs (events.map (·.item)) := Request.lookups_eq hq
  refine ⟨fun es hes => ?_, fun es _ => ?_, fun es hes hex => ?_⟩
  · have := hes.length_le
    rwa [potential_start, hlookups] at this
  · obtain ⟨rest, hrest, hex⟩ := exists_exhausted q (start.steps q es)
    refine ⟨rest, hrest, ?_⟩
    rwa [steps, List.foldl_append]
  · obtain ⟨outcome, hs⟩ := hex.ended
    obtain ⟨set, hset⟩ := exists_candidates hq hes hs
    obtain ⟨hperm, rfl⟩ := eq_answerFor_of_ended hset
    exact ⟨_, hset, Request.isAnswer_answerFor (hlookups ▸ hperm)⟩

end Run

namespace Request

/-- Neighbor lists of three seeds that share the item `b`, and a failure of one of them. -/
def threeLists : Lists where
  lists := [
    ⟨"s1", none, [⟨"z", .one⟩, ⟨"a", .ofBits 0x3fe3333333333333⟩,
      ⟨"b", .ofBits 0x3fb999999999999a⟩]⟩,
    ⟨"s2", none, [⟨"b", .ofBits 0x3fc999999999999a⟩]⟩,
    ⟨"s3", none, [⟨"b", .ofBits 0x3fd3333333333333⟩]⟩]
  failures := [⟨"s2", some "c", .query "busy"⟩]
  deadly := []

/-- The feedback for the three seeds. -/
def threeEvents : List Feedback :=
  ["s1", "s2", "s3"].map fun item => ⟨"u", item, "like", ⟨0, 0⟩⟩

/-- A request with three seeds and one category, in which one lookup fails. -/
def threeSeeds : Request where
  settings := .default
  user := "u"
  now := ⟨1, 0⟩
  categories := ["c", "", "c"]
  excluded := ["z"]
  available _ := true
  feedback _ := .ok threeEvents
  neighbors := threeLists.reply

end Request

namespace Run

/-- Events by which the six lookups for two labels and three seeds all start, finish by their places
and are taken in. -/
def sixLookups (places : List Nat) : List Event :=
  .answer :: List.replicate 7 .advance ++ places.map (.finish · false) ++
    List.replicate 13 .advance

/-- A failed lookup leaves the list of its label with what the other lookups brought. -/
theorem outcome_of_exhausted_threeSeeds :
    ∃ set, (start.steps .threeSeeds (sixLookups [5, 4, 3, 2, 1, 0])).outcome? = some (.ok set) ∧
      Request.threeSeeds.IsAnswer ["s1", "s2", "s3"]
        [⟨"c", "s3"⟩, ⟨"c", "s2"⟩, ⟨"c", "s1"⟩, ⟨"", "s3"⟩, ⟨"", "s2"⟩, ⟨"", "s1"⟩] set ∧
      set = ⟨⟨[("", ["a", "b"]), ("c", ["a", "b"])]⟩⟩ := by
  have hfeedback : Request.threeSeeds.feedback Request.threeSeeds.feedbackQuery =
      .ok Request.threeEvents := rfl
  have hset : (start.steps .threeSeeds (sixLookups [5, 4, 3, 2, 1, 0])).outcome? =
      some (.ok ⟨⟨[("", ["a", "b"]), ("c", ["a", "b"])]⟩⟩) := by decide +kernel
  have hcompletions : completions .threeSeeds start (sixLookups [5, 4, 3, 2, 1, 0]) =
      [⟨"c", "s3"⟩, ⟨"c", "s2"⟩, ⟨"c", "s1"⟩, ⟨"", "s3"⟩, ⟨"", "s2"⟩, ⟨"", "s1"⟩] := by
    decide +kernel
  have hrunning : (start.steps .threeSeeds (sixLookups [5, 4, 3, 2, 1, 0])).running = [] := by
    decide +kernel
  have hex : Exhausted .threeSeeds (start.steps .threeSeeds (sixLookups [5, 4, 3, 2, 1, 0])) :=
    exhausted_of_ended (stage_of_outcome hset) hrunning
  obtain ⟨set, hset', hanswer⟩ :=
    (outcome_of_exhausted hfeedback).2.2 (sixLookups [5, 4, 3, 2, 1, 0]) (by decide) hex
  rw [hcompletions] at hanswer
  have heq : set = ⟨⟨[("", ["a", "b"]), ("c", ["a", "b"])]⟩⟩ := by
    rw [hset] at hset'
    cases hset'
    rfl
  exact ⟨set, hset', hanswer, heq⟩

end Run

end SimilarItems.Recommend
